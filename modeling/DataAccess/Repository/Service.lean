import DataAccess.Repository.Reading
import DataAccess.Repository.Writing

/-! A service over a repository: writes that give the stored row, and listings driven by requests.
-/
namespace DataAccess.Repository

variable {schema : Schema} (repository : Repository schema)

/-- Read a stored row, which must be there. -/
def stored (id : schema.idType.Carrier) : Engine (Row schema) := do
  match ← repository.findById id .default with
  | some row => return row
  | none => throw (.notFound (.stored schema.table (schema.idType.describe id)))

def createAndRead (row : Row schema) : Engine (Row schema) := do
  repository.stored (← repository.create row)

def upsertAndRead (row : Row schema) (conflict update : List String) : Engine (Row schema) := do
  repository.stored (← repository.upsert row conflict update)

/-- The condition of a request, and that of the caller if there is one. -/
def listCondition (condition : Option Condition) (request : ListingRequest)
    (options : ReadOptions) : Condition :=
  match condition with
  | some condition => condition.and (repository.compile request options)
  | none => repository.compile request options

/-- List what a request asks for: a page with a total, or every row without one. -/
def list (condition : Option Condition) (request : ListingRequest) (options : ReadOptions) :
    Engine (ListingResult (Row schema)) := do
  let condition := repository.listCondition condition request options
  if request.isPaginated then repository.findPage (some condition) request options
  else return ⟨none, ← repository.findAll (some condition) request options⟩

end DataAccess.Repository
