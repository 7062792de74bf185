import DataAccess.Engine.Statement
import DataAccess.Plan.Preloading

/-! Loading entities with their related rows. Each preload takes at most one statement for all
parents: it asks for the rows of every key that some parent has, and hands each parent those whose
key has the same text. How entities are read, which keys they have and how they take their records is
up to the entities. -/
namespace DataAccess.Engine

variable {α : Type} [Entity α]

/-- Keep a key that is not null and not there yet. -/
def addKey (keys : List Value) (key : Value) : List Value :=
  if key.isNull || keys.any (·.same key) then keys else keys ++ [key]

/-- The keys of parents, in the order in which they first occur. -/
def parentKeys (parents : List α) (column : String) : List Value :=
  (parents.filterMap (Entity.keyValue? · column)).foldl addKey []

/-- A related record, and the text of its parent's key. -/
structure Related where
  key : String
  record : Record

/-- Split the parent's key off a loaded record; a record without one has the key null. -/
def Related.ofRecord (record : Record) : Related :=
  ⟨((record.get? preloadKey).getD .null).toText, record.erase preloadKey⟩

def relatedTo (related : List Related) (parent : α) (column : String) : List Record :=
  match Entity.keyValue? parent column with
  | some key => (related.filter fun entry => entry.key = key.toText).map Related.record
  | none => []

/-- Ask for the rows of keys; without keys there is nothing to ask for. -/
def fetchRelated (preload : Preload) (keys : List Value) (locale : String) (dialect : Dialect) :
    Engine (List Related) := do
  if keys.isEmpty then return []
  let rows ← fetchRows (← preload.statement keys locale dialect)
  let records ← (rows.mapM ResultRow.decode : Except DataError (List Record))
  return records.map Related.ofRecord

/-- Load one relation and attach it to every parent, to some of them perhaps without records. -/
def loadRelation (preload : Preload) (parents : List α) (locale : String) (dialect : Dialect) :
    Engine (List α) := do
  let related ← fetchRelated preload (parentKeys parents preload.localKey) locale dialect
  parents.mapM fun parent =>
    (Entity.attach parent preload.relation (relatedTo related parent preload.localKey) :
      Except DataError α)

def loadRelations (preloads : List Preload) (parents : List α) (locale : String)
    (dialect : Dialect) : Engine (List α) :=
  preloads.foldlM (fun parents preload => loadRelation preload parents locale dialect) parents

/-- Read entities and load their relations. -/
def load (statement : Statement) (preloads : List Preload) (locale : String) (dialect : Dialect) :
    Engine (List α) := do
  let rows ← fetchRows statement
  let entities ← (rows.mapM ResultRow.toEntity : Except DataError (List α))
  loadRelations preloads entities locale dialect

end DataAccess.Engine
