import DataAccess.Listing.Filter
import DataAccess.Repository.Basic

/-! Reads of a repository: listings, single rows, counts and columns. -/
namespace DataAccess.Repository

variable {schema : Schema} (repository : Repository schema)

def findAll (condition : Option Condition) (request : ListingRequest) (options : ReadOptions) :
    Engine (List (Row schema)) := do
  let locale ← repository.locale
  let planner ← repository.planner options
  let listing := planner.listing condition request locale false
  repository.exchange
    (repository.load listing.select ((repository.specFor options).preloadsFor true) locale)

/-- Count the rows of a listing, then read its page. -/
def findPage (condition : Option Condition) (request : ListingRequest) (options : ReadOptions) :
    Engine (ListingResult (Row schema)) := do
  let locale ← repository.locale
  let planner ← repository.planner options
  let listing := planner.listing condition request locale true
  repository.exchange do
    let total ← match listing.count with
      | some count => Engine.fetchCount count
      | none => pure 0
    let rows ←
      repository.load listing.select ((repository.specFor options).preloadsFor true) locale
    return ⟨some total, rows⟩

/-- The first row that a statement finds. -/
def loadFirst (statement : Statement) (options : ReadOptions) (locale : String) :
    Engine (Option (Row schema)) :=
  repository.exchange do
    let rows ←
      repository.load statement ((repository.specFor options).preloadsFor false) locale
    return rows.head?

def findOne (condition : Condition) (options : ReadOptions) : Engine (Option (Row schema)) := do
  let locale ← repository.locale
  let statement ← (← repository.planner options).first (some condition) locale
  repository.loadFirst statement options locale

def findById (id : schema.idType.Carrier) (options : ReadOptions) :
    Engine (Option (Row schema)) := do
  let locale ← repository.locale
  let statement ← (← repository.planner options).byId id locale
  repository.loadFirst statement options locale

/-- The rows with the given identities; without identities there is nothing to ask for. -/
def findByIds (ids : List schema.idType.Carrier) (options : ReadOptions) :
    Engine (List (Row schema)) := do
  if ids.isEmpty then return []
  let locale ← repository.locale
  let statement ← (← repository.planner options).byIds ids locale
  repository.exchange
    (repository.load statement ((repository.specFor options).preloadsFor false) locale)

def count (condition : Option Condition) : Engine UInt64 := do
  let statement := (← repository.planner .default).count condition
  repository.exchange (Engine.fetchCount statement)

def existsWhere (condition : Condition) : Engine Bool := do
  return 0 < (← repository.count (some condition))

def existsById (id : schema.idType.Carrier) : Engine Bool := do
  let _ ← repository.planner .default
  repository.existsWhere (← schema.idCondition id)

def pluck (column : String) (condition : Option Condition) : Engine (List Value) := do
  let statement ← (← repository.planner .default).pluck column condition
  repository.exchange do
    let rows ← Engine.fetchRows statement
    (rows.mapM (·.decodeAt 0) : Except DataError (List Value))

def compile (request : ListingRequest) (options : ReadOptions) : Condition :=
  (repository.specFor options).compile request

end DataAccess.Repository
