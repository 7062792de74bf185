import DataAccess.Error
import DataAccess.Spec
import DataAccess.Sql.Query

/-! Planned preloads: the rows of a related table that belong to given parents. -/
namespace DataAccess

/-- The column of a preload's result that holds the key of the parent. -/
def preloadKey : String := "sift_preload_key"

/-- The marker that must be null in preloaded rows, if the preload hides deleted ones. -/
def Preload.scope? (preload : Preload) : Option String :=
  if preload.includeDeleted then none else preload.softDeleteColumn

/-- The rows whose foreign key is one of the keys. -/
def Preload.query (preload : Preload) (keys : List Value) (dialect : Dialect) : Query :=
  let query :=
    (Query.ofTable preload.table dialect).filter (.inList preload.foreignKey (.list keys))
  match preload.scope? with
  | some column => query.filterNull (preload.table ++ "." ++ column)
  | none => query

/-- The select list of a preload: its projection, else the whole row, and the parent's key. -/
def Preload.selectList (preload : Preload) (locale : String) : String :=
  (Projection.render? preload.projection locale).getD (preload.table ++ ".*") ++ ", " ++
    preload.foreignKey ++ " AS " ++ preloadKey

def Preload.statement (preload : Preload) (keys : List Value) (locale : String)
    (dialect : Dialect) : Except DataError Statement := do
  requireIdentifier preload.table .table
  requireIdentifier preload.foreignKey .column
  if let some column := preload.scope? then requireIdentifier column .column
  return (preload.query keys dialect).select (preload.selectList locale)

end DataAccess
