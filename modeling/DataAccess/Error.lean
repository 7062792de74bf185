import DataAccess.Backend.Failure
import DataAccess.Entity.Identity
import DataAccess.Json.Fault
import DataAccess.Sql.Identifier

/-! The errors of the data layer. Each names its cause; the wording is in one place per kind. A
failure of the backend is passed through, except that a missing row is reported as not found and a
result of the wrong shape as a configuration error. -/
namespace DataAccess

/-- A mapping that cannot work, or an identity that cannot be resolved. -/
inductive ConfigurationFault where
  | query (error : QueryError)
  | noIdentity (table : String)
  | identityNotAColumn (column table : String)
  | unsupportedIdentity (kind : String)
  | identityMismatch (carried : IdValue) (expected : IdType)
  | relationRejected (relation table : String)
  | unknownRelation (relation : String)
  | noSoftDelete (table : String)
  | conflictNotWritten (column table : String)
  | columnMissing (column : String)
  | columnUndecodable (index source : String)
  | unsignedTooLarge (value : UInt64)
  | unexpandedList
  | noLastInsertId
  | transactionFinished
  | nestedTransaction
  | conditionNotSatisfied (table : String)
  /-- a fault stated by the caller -/
  | stated (text : String)
deriving DecidableEq

def ConfigurationFault.message : ConfigurationFault → String
  | query error => error.message
  | noIdentity table => table ++ " has no usable identity column"
  | identityNotAColumn column table =>
    "identity column '" ++ column ++ "' is not a column of " ++ table
  | unsupportedIdentity kind => "unsupported identifier type: " ++ kind
  | identityMismatch carried expected =>
    "identifier " ++ carried.describe ++ " does not fit " ++ expected.name
  | relationRejected relation table =>
    table ++ " does not accept relation '" ++ relation ++ "'"
  | unknownRelation relation => "unknown relation " ++ relation
  | noSoftDelete table => table ++ " has no soft-delete column to restore"
  | conflictNotWritten column table =>
    "conflict column '" ++ column ++ "' is not written by " ++ table
  | columnMissing column => "column '" ++ column ++ "' missing from result set"
  | columnUndecodable index source => "cannot decode column " ++ index ++ ": " ++ source
  | unsignedTooLarge value =>
    "unsigned value " ++ toString value.toNat ++ " does not fit a signed 64-bit column"
  | unexpandedList => "list argument reached the driver unexpanded"
  | noLastInsertId => "driver reported no last insert id"
  | transactionFinished => "transaction already finished"
  | nestedTransaction => "nested transactions are not supported"
  | conditionNotSatisfied table =>
    table ++ " entity does not satisfy the find-or-create condition"
  | stated text => text

/-- What was looked for and is not there. -/
inductive Absence where
  | row
  /-- a written row, looked up by its conflict columns -/
  | writtenRow
  | vanished (table : String)
  | stored (table id : String)
  | stated (text : String)
deriving DecidableEq

def Absence.message : Absence → String
  | row => "Row not found"
  | writtenRow => "written row not found by its conflict columns"
  | vanished table => table ++ " row vanished after find-or-create"
  | stored table id => table ++ " " ++ id
  | stated text => text

/-- Why a record does not fit the shape it is decoded into. -/
inductive RecordError where
  | invalidType (found expected : String)
  | outOfRange (found : Int) (expected : String)
  | missingField (name : String)
  /-- a value that begins like an embedded text and has so many members -/
  | tooManyMembers (count : Nat)
  /-- a value that begins like an embedded text which is malformed -/
  | malformed (error : JsonError)
deriving DecidableEq

def RecordError.message : RecordError → String
  | invalidType found expected => "invalid type: " ++ found ++ ", expected " ++ expected
  | outOfRange found expected =>
    "invalid value: integer `" ++ toString found ++ "`, expected " ++ expected
  | missingField name => "missing field `" ++ name ++ "`"
  | tooManyMembers count =>
    "invalid length " ++ toString count ++ ", expected fewer elements in map"
  | malformed error => error.message

/-- A reply that cannot be used, or a failure of the caller's own. -/
inductive Anomaly where
  | countWithoutRow
  | countOfKind (kind : String)
  | writeWithoutIdentity
  | undecodableRecord (error : RecordError)
  | stated (text : String)
deriving DecidableEq

def Anomaly.message : Anomaly → String
  | countWithoutRow => "count returned no row"
  | countOfKind kind => "count returned " ++ kind
  | writeWithoutIdentity => "write returned no identity"
  | undecodableRecord error => "cannot decode record: " ++ error.message
  | stated text => text

inductive DataError where
  | notFound (absence : Absence)
  | configuration (fault : ConfigurationFault)
  | database (failure : BackendFailure)
  | cancelled
  | deadlineExceeded
  | other (anomaly : Anomaly)
deriving DecidableEq

namespace DataError

def kind : DataError → String
  | notFound _ => "NotFound"
  | configuration _ => "Configuration"
  | database _ => "Database"
  | cancelled => "Cancelled"
  | deadlineExceeded => "DeadlineExceeded"
  | other _ => "Other"

def message : DataError → String
  | notFound absence => "Not found: " ++ absence.message
  | configuration fault => "Configuration error: " ++ fault.message
  | database failure => "Database error: " ++ failure.message
  | cancelled => "Operation cancelled"
  | deadlineExceeded => "Deadline exceeded"
  | other anomaly => "Data error: " ++ anomaly.message

def isConfiguration : DataError → Bool
  | configuration _ => true
  | _ => false

def source? : DataError → Option BackendFailure
  | database failure => some failure
  | _ => none

/-- An identifier that may not stand in a statement is a fault of the mapping. -/
def ofQueryError (error : QueryError) : DataError := configuration (.query error)

end DataError

def BackendFailure.toDataError : BackendFailure → DataError
  | rowNotFound => .notFound .row
  | columnNotFound column => .configuration (.columnMissing column)
  | columnDecode index source => .configuration (.columnUndecodable index source)
  | failure => .database failure

/-- Accept an identifier or fail as the data layer does. -/
def requireIdentifier (text : String) (kind : IdentifierKind) : Except DataError Unit :=
  (checkIdentifier text kind).mapError DataError.ofQueryError

end DataAccess
