import DataAccess.Repository.Basic

/-! Writes of a repository. Creating many rows, and finding or creating one, run in a transaction of
their own unless the repository is bound to one. -/
namespace DataAccess.Repository

variable {schema : Schema} (repository : Repository schema)

def write (write : Write) : Engine schema.idType.Carrier := do
  schema.readId (← repository.exchange (Engine.writeRow write))

def create (row : Row schema) : Engine schema.idType.Carrier := do
  repository.write (← (← repository.planner .default).insert row)

/-- Insert rows, all of them or none. -/
def createMany (rows : List (Row schema)) : Engine (List schema.idType.Carrier) :=
  if rows.isEmpty then return []
  else repository.atomically fun repository => rows.mapM repository.create

def update (condition : Condition) (changes : Changes) : Engine UInt64 := do
  repository.execute (← (← repository.planner .default).update (some condition) changes)

/-- Update a row and read it again. -/
def updateById (id : schema.idType.Carrier) (changes : Changes) :
    Engine (Option (Row schema)) := do
  let planner ← repository.planner .default
  let update ← planner.update (some (← schema.idCondition id)) changes
  let locale ← repository.locale
  let select ← planner.byId id locale
  repository.exchange do
    let _ ← Engine.execute update
    let rows ← repository.load select (repository.spec.preloadsFor false) locale
    return rows.head?

/-- Delete rows, for good only if the entity has no deletion marker. -/
def delete (condition : Condition) : Engine UInt64 := do
  repository.execute ((← repository.planner .default).delete (some condition))

def deleteById (id : schema.idType.Carrier) : Engine Bool := do
  let planner ← repository.planner .default
  let statement := planner.delete (some (← schema.idCondition id))
  return 0 < (← repository.execute statement)

def deleteByIds (ids : List schema.idType.Carrier) : Engine UInt64 := do
  if ids.isEmpty then return 0
  let planner ← repository.planner .default
  repository.execute (planner.delete (some (← schema.idsCondition ids)))

def purge (condition : Condition) : Engine UInt64 := do
  repository.execute ((← repository.planner .default).purge (some condition))

def restore (condition : Condition) : Engine UInt64 := do
  repository.execute (← (← repository.planner .default).restore (some condition))

def restoreById (id : schema.idType.Carrier) : Engine Bool := do
  let planner ← repository.planner .default
  let statement ← planner.restore (some (← schema.idCondition id))
  return 0 < (← repository.execute statement)

def upsert (row : Row schema) (conflict update : List String) :
    Engine schema.idType.Carrier := do
  repository.write (← (← repository.planner .default).upsert row conflict update)

/-- Insert a row unless one satisfies the condition, then read the row. A created row is read by its
own identity and the condition, so a row that does not satisfy the condition is refused. -/
def findOrCreateIn (condition : Condition) (row : Row schema) (options : ReadOptions) :
    Engine (Row schema × Bool) := do
  let locale ← repository.locale
  let planner ← repository.planner options
  let insert ← planner.findOrCreate (some condition) row
  repository.exchange do
    let written ← Engine.writeIfAbsent insert
    let lookup ← match written with
      | some carried => do
        let id ← schema.readId carried
        pure (condition.and (← schema.idCondition id))
      | none => pure condition
    let select ← planner.first (some lookup) locale
    let rows ←
      repository.load select ((repository.specFor options).preloadsFor false) locale
    match rows.head?, written with
    | some found, written => return (found, written.isSome)
    | none, some _ => throw (.configuration (.conditionNotSatisfied schema.table))
    | none, none => throw (.notFound (.vanished schema.table))

/-- The row that satisfies a condition, created if there is none, and whether it was created. -/
def findOrCreate (condition : Condition) (row : Row schema) (options : ReadOptions) :
    Engine (Row schema × Bool) :=
  repository.atomically fun repository => repository.findOrCreateIn condition row options

end DataAccess.Repository
