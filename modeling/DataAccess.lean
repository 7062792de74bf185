import DataAccess.Scenario.Call
import DataAccess.Settings.Load
import DataAccess.Listing.Filter
import DataAccess.Plan.Preloading
import DataAccess.Plan.Reading
import DataAccess.Plan.Writing
import DataAccess.Proofs.Sql.Formula
import DataAccess.Proofs.Sql.Reading
import DataAccess.Proofs.Sql.Composition
import DataAccess.Proofs.Sql.Compilation
import DataAccess.Proofs.Sql.Identifier
import DataAccess.Proofs.Sql.Meaning
import DataAccess.Proofs.Listing.Filter
import DataAccess.Proofs.Plan.Placeholders
import DataAccess.Proofs.Repository.Listing
import DataAccess.Proofs.Repository.Disclosure
import DataAccess.Proofs.Engine.Advance
import DataAccess.Proofs.Engine.Transaction
import DataAccess.Proofs.Repository.Atomicity
import DataAccess.Proofs.Repository.Mapping
import DataAccess.Proofs.Listing.Meaning
import DataAccess.Proofs.Plan.Binding
import DataAccess.Proofs.Plan.Listing
import DataAccess.Proofs.Repository.Failure
import DataAccess.Proofs.Repository.Guard
import DataAccess.Proofs.Listing.Lists
import DataAccess.Proofs.Repository.Update
import DataAccess.Proofs.Storage.Upsert
import DataAccess.Proofs.Repository.Storing
import DataAccess.Proofs.Repository.Relations
import DataAccess.Proofs.Plan.Window
import DataAccess.Proofs.Repository.Preloading
import DataAccess.Proofs.Sql.Opaque
import DataAccess.Proofs.Plan.Assignment
import DataAccess.Proofs.Storage.Merge
import DataAccess.Proofs.Listing.Membership
import DataAccess.Proofs.Listing.Search
import DataAccess.Proofs.Repository.Admission
import DataAccess.Proofs.Settings.Source
import DataAccess.Proofs.Plan.Order
import DataAccess.Proofs.Json.Conversion
import DataAccess.Proofs.Engine.Identity
import DataAccess.Proofs.Sql.Grammar
import DataAccess.Proofs.Listing.Request
import DataAccess.Proofs.Plan.Changes
