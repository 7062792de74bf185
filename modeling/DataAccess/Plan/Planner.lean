import DataAccess.Entity.Schema
import DataAccess.Settings.Basic
import DataAccess.Spec
import DataAccess.Sql.Query

/-! Planners. A planner turns conditions, requests and rows of one entity into statements. It
reaches no backend, so a mapping that cannot work is reported before anything is sent. Rows whose
deletion marker is set are hidden unless the call or the specification asks for them. -/
namespace DataAccess

namespace Schema

variable (schema : Schema)

/-- `<table>.<id> = ?` -/
def idCondition (id : schema.idType.Carrier) : Except DataError Condition := do
  let column ← schema.identityColumn
  return .eq (schema.qualified column) (schema.idValue id).toValue

/-- `<table>.<id> IN (?)` -/
def idsCondition (ids : List schema.idType.Carrier) : Except DataError Condition := do
  let column ← schema.identityColumn
  return .inList (schema.qualified column)
    (.list (ids.map fun id => (schema.idValue id).toValue))

end Schema

structure Planner (schema : Schema) where
  spec : Spec
  settings : Settings
  /-- whether deleted rows are visible -/
  unscoped : Bool

namespace Planner

/-- A planner for an entity whose table and deletion marker may stand in a statement. -/
def make (schema : Schema) (spec : Spec) (settings : Settings) (unscoped : Bool) :
    Except DataError (Planner schema) := do
  requireIdentifier schema.table .table
  if let some marker := schema.softDelete then requireIdentifier marker .column
  return ⟨spec, settings, unscoped || spec.unscoped⟩

variable {schema : Schema} (planner : Planner schema)

def dialect : Dialect := planner.settings.dialect

/-- The marker column that must be null in visible rows, if deleted ones are hidden. -/
def scope? : Option String :=
  if planner.unscoped then none else schema.softDelete.map schema.qualified

/-- The whole table, without joins. -/
def wholeTable : Query := .ofTable schema.table planner.dialect

end Planner

/-- Restrict a query to a caller's condition and to the rows where a marker is null. -/
def Query.restrict (query : Query) (condition : Option Condition) (scope : Option String) : Query :=
  let query := match condition with
    | some condition => query.filter condition
    | none => query
  match scope with
  | some column => query.filterNull column
  | none => query

namespace Planner

variable {schema : Schema} (planner : Planner schema)

/-- The visible rows that satisfy a condition, with the joins of the specification. -/
def visible (condition : Option Condition) : Query :=
  { planner.wholeTable with joins := planner.spec.joins }.restrict condition planner.scope?

/-- The select list of a call: its projection, else every column of the table. -/
def selectList (listing : Bool) (locale : String) : String :=
  (Projection.render? (planner.spec.projectionFor listing) locale).getD
    (if planner.spec.joins.isEmpty then "*" else schema.table ++ ".*")

end Planner

end DataAccess
