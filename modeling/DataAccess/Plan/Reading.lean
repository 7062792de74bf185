import DataAccess.Listing.Page
import DataAccess.Listing.Request
import DataAccess.Listing.Sort
import DataAccess.Plan.Planner

/-! Planned reads: listings with their counts, single rows, and single columns. -/
namespace DataAccess

structure Listing where
  select : Statement
  count : Option Statement
  page : Option Page

namespace Planner

variable {schema : Schema} (planner : Planner schema)

/-- The rows of a listing, in groups and without order: what its count counts. -/
def listingRows (condition : Option Condition) : Query :=
  { planner.visible condition with groupBy := planner.spec.groupBy }

/-- The page window of a listing: counted listings have one unless the request turns it off. -/
def window? (request : ListingRequest) (counted : Bool) : Option Page :=
  if counted && request.isPaginated then
    some (Page.normalize request.page request.perPage planner.settings)
  else none

def listingOrder (request : ListingRequest) : SortTerm :=
  SortTerm.resolve request.sortKey request.sortDirection planner.spec.defaultSort planner.settings

/-- The rows of a listing in order, within the window. -/
def listingQuery (condition : Option Condition) (request : ListingRequest) (counted : Bool) :
    Query :=
  let order := planner.listingOrder request
  let query := (planner.listingRows condition).sort order.column order.direction
  match planner.window? request counted with
  | some page => (query.take page.limit).skip page.offset
  | none => query

/-- Plan a listing. A counted one also plans a count over the same joins, predicate and grouping. -/
def listing (condition : Option Condition) (request : ListingRequest) (locale : String)
    (counted : Bool) : Listing where
  select := (planner.listingQuery condition request counted).select (planner.selectList true locale)
  count := if counted then some (planner.listingRows condition).count else none
  page := planner.window? request counted

/-- The matching row with the least identity. -/
def first (condition : Option Condition) (locale : String) : Except DataError Statement := do
  let id ← schema.identityColumn
  return (((planner.visible condition).sort (schema.qualified id) .asc).take 1).select
    (planner.selectList false locale)

def byId (id : schema.idType.Carrier) (locale : String) : Except DataError Statement := do
  planner.first (some (← schema.idCondition id)) locale

/-- The rows with the given identities, in the order of their identities. -/
def byIds (ids : List schema.idType.Carrier) (locale : String) :
    Except DataError Statement := do
  let id ← schema.identityColumn
  let condition ← schema.idsCondition ids
  return ((planner.visible (some condition)).sort (schema.qualified id) .asc).select
    (planner.selectList false locale)

def count (condition : Option Condition) : Statement := (planner.visible condition).count

def pluck (column : String) (condition : Option Condition) : Except DataError Statement := do
  requireIdentifier column .column
  return (planner.visible condition).select column

end Planner

end DataAccess
