import DataAccess.Entity.Changes
import DataAccess.Plan.Planner

/-! Planned writes. Updates and deletions restrict the table by the caller's condition and the
deletion marker. Insertions say where the identity of the written row comes from: the row itself, a
returned column, the backend's last inserted identity, or a query by the conflict columns. -/
namespace DataAccess

/-- Where the identity of a written row comes from. -/
inductive IdSource where
  /-- the row carries it -/
  | known (id : IdValue)
  /-- the statement returns it -/
  | returning
  /-- the backend keeps the last inserted one -/
  | lastInsertId
  /-- a select by the conflict columns finds it -/
  | lookup (statement : Statement)

/-- An insertion, and how to learn the identity of the written row. -/
structure Write where
  statement : Statement
  id : IdSource

/-- What an insertion of this source ends in. -/
def IdSource.returningText (source : IdSource) (idColumn : String) : String :=
  match source with
  | returning => " RETURNING " ++ idColumn
  | _ => ""

def requireColumns (columns : List String) : Except DataError Unit :=
  columns.forM fun column => requireIdentifier column .column

/-- One question mark for each of `n` values. -/
def placeholders (n : Nat) : String := ", ".intercalate (List.replicate n "?")

namespace Schema

variable (schema : Schema)

def updateHead (assignments : List (String × Value)) : Fragment :=
  ⟨"UPDATE " ++ schema.table ++ " SET " ++
      ", ".intercalate (assignments.map fun assignment => assignment.1 ++ " = ?"),
    assignments.map Prod.snd⟩

/-- The columns that decide a conflict: the given ones, else the identity. -/
def conflictColumns (given : List String) : List String :=
  if given.isEmpty then [schema.idColumn] else given

/-- The columns that a conflict assigns: the given ones, else every written column that neither
decides the conflict nor is the identity, else the first conflict column to itself. -/
def upsertTargets (columns conflict given : List String) : List String :=
  let targets :=
    if given.isEmpty then
      columns.filter fun column => column ∉ conflict ∧ column ≠ schema.idColumn
    else given
  if targets.isEmpty then conflict.take 1 else targets

end Schema

namespace Row

variable {schema : Schema} (row : Row schema)

/-- The columns that a row writes; there must be some, and all may stand in a statement. -/
def writtenColumns : Except DataError (List String) := do
  if row.values.isEmpty then throw (.ofQueryError .noColumns)
  requireColumns (row.values.map Prod.fst)
  return row.values.map Prod.fst

def insertHead : Fragment :=
  ⟨"INSERT INTO " ++ schema.table ++ " (" ++ ", ".intercalate (row.values.map Prod.fst) ++
      ") VALUES (" ++ placeholders row.values.length ++ ")",
    row.values.map Prod.snd⟩

end Row

namespace Planner

variable {schema : Schema} (planner : Planner schema)

/-- Add a restriction to the head of a statement. -/
def mutation (head : Fragment) (condition : Option Condition) (scope : Option String) : Fragment :=
  match (planner.wholeTable.restrict condition scope).predicate? with
  | some predicate => ⟨head.sql ++ " WHERE " ++ predicate.sql, head.args ++ predicate.args⟩
  | none => head

/-- Assign columns in the visible rows that satisfy a condition. -/
def update (condition : Option Condition) (changes : Changes) : Except DataError Statement := do
  if changes.isEmpty then throw (.ofQueryError .noColumns)
  requireColumns (changes.assignments.map Prod.fst)
  return (planner.mutation (schema.updateHead changes.assignments) condition planner.scope?).render
    planner.dialect

/-- Delete rows for good, visible or not. -/
def purge (condition : Option Condition) : Statement :=
  (planner.mutation ⟨"DELETE FROM " ++ schema.table, []⟩ condition none).render planner.dialect

/-- Delete rows: stamp the marker of live rows if the entity has one, else delete them for good. -/
def delete (condition : Option Condition) : Statement :=
  match schema.softDelete with
  | some marker =>
    (planner.mutation
      ⟨"UPDATE " ++ schema.table ++ " SET " ++ marker ++ " = CURRENT_TIMESTAMP", []⟩
      condition (some (schema.qualified marker))).render planner.dialect
  | none => planner.purge condition

/-- Clear the deletion marker, of rows that are visible or not. -/
def restore (condition : Option Condition) : Except DataError Statement :=
  match schema.softDelete with
  | some marker =>
    .ok ((planner.mutation ⟨"UPDATE " ++ schema.table ++ " SET " ++ marker ++ " = NULL", []⟩
      condition none).render planner.dialect)
  | none => .error (.configuration (.noSoftDelete schema.table))

def idSource (columns : List String) (row : Row schema) : Except DataError IdSource := do
  let id ← schema.identityColumn
  if id ∈ columns then return .known (schema.idValue row.id)
  else if planner.dialect.supportsReturning then return .returning
  else return .lastInsertId

/-- The condition that the conflict columns have the values of a row; all must be written. -/
def conflictQuery (row : Row schema) (conflict : List String) : Except DataError Query :=
  conflict.foldlM (fun query column =>
    match row.values.lookup column with
    | some value => .ok (query.filter (.eq column value))
    | none => .error (.configuration (.conflictNotWritten column schema.table)))
    planner.wholeTable

/-- Where the identity of an inserted or updated row comes from. The row's own identity is the
stored one only if a conflict is decided by the identity column; on any other conflict the stored
row keeps its identity, which has to be returned or looked up. -/
def upsertIdSource (columns conflict : List String) (row : Row schema) :
    Except DataError IdSource := do
  let id ← schema.identityColumn
  if id ∉ columns ∨ id ∈ conflict then planner.idSource columns row
  else if planner.dialect.supportsReturning then return .returning
  else return .lookup ((← planner.conflictQuery row conflict).select id)

def insert (row : Row schema) : Except DataError Write := do
  let columns ← row.writtenColumns
  let source ← planner.idSource columns row
  let head := row.insertHead
  let tail := source.returningText schema.idColumn
  return ⟨Fragment.render ⟨head.sql ++ tail, head.args⟩ planner.dialect, source⟩

/-- What an insertion does on a conflict, in the words of the dialect. -/
def conflictText (source : IdSource) (conflict targets : List String) : String :=
  let id := schema.idColumn
  if planner.dialect = .mysql then
    let assignments := targets.map fun column => column ++ " = VALUES(" ++ column ++ ")"
    let keepId := match source with
      | .lastInsertId => [id ++ " = LAST_INSERT_ID(" ++ id ++ ")"]
      | _ => []
    " ON DUPLICATE KEY UPDATE " ++ ", ".intercalate (assignments ++ keepId)
  else
    let assignments := targets.map fun column => column ++ " = excluded." ++ column
    " ON CONFLICT (" ++ ", ".intercalate conflict ++ ") DO UPDATE SET " ++
      ", ".intercalate assignments ++ source.returningText id

/-- Insert a row, or update the row that it conflicts with. -/
def upsert (row : Row schema) (conflict update : List String) : Except DataError Write := do
  let _ ← schema.identityColumn
  let columns ← row.writtenColumns
  let conflict := schema.conflictColumns conflict
  requireColumns (conflict ++ update)
  let targets := schema.upsertTargets columns conflict update
  let source ← planner.upsertIdSource columns conflict row
  let head := row.insertHead
  let tail := planner.conflictText source conflict targets
  return ⟨Fragment.render ⟨head.sql ++ tail, head.args⟩ planner.dialect, source⟩

/-- The select that must find nothing for a guarded insertion to write. -/
def guardQuery (condition : Option Condition) : Query :=
  planner.wholeTable.restrict condition planner.scope?

/-- An insertion that writes only if no visible row satisfies the condition. -/
def guardedInsert (condition : Option Condition) (row : Row schema) (source : IdSource) :
    Fragment :=
  let (verb, dual) := if planner.dialect = .mysql then ("INSERT IGNORE", " FROM DUAL")
    else ("INSERT", "")
  let guard := (planner.guardQuery condition).source
  let onConflict := if planner.dialect = .postgres then " ON CONFLICT DO NOTHING" else ""
  ⟨verb ++ " INTO " ++ schema.table ++ " (" ++ ", ".intercalate (row.values.map Prod.fst) ++
      ") SELECT " ++ placeholders row.values.length ++ dual ++ " WHERE NOT EXISTS (SELECT 1" ++
      guard.sql ++ ")" ++ onConflict ++ source.returningText schema.idColumn,
    row.values.map Prod.snd ++ guard.args⟩

/-- Insert a row unless a visible row satisfies the condition, in one statement. -/
def findOrCreate (condition : Option Condition) (row : Row schema) :
    Except DataError Write := do
  let columns ← row.writtenColumns
  let source ← planner.idSource columns row
  return ⟨(planner.guardedInsert condition row source).render planner.dialect, source⟩

end Planner

end DataAccess
