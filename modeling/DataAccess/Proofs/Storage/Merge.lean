import DataAccess.Proofs.Plan.Assignment
import DataAccess.Proofs.Storage.Upsert

/-! What an upsert without an update set makes of the row that it conflicts with. The assignments are
read in the text of the statement and made one after the other. All dialects assign the same columns;
the identity, the columns that decide the conflict and those that the row does not write are left. -/
namespace DataAccess

open Sql

namespace Layout

end Layout

namespace Schema

end Schema

namespace Catalog

variable {schema : Schema} {κ : Type} [DecidableEq κ] (catalog : Catalog schema κ)

/-- What an assignment puts into its column. -/
def datum? (incoming current : Tuple κ) : ConflictSource → Option Argument
  | .incoming name => (catalog.column? name).map incoming
  | .stored name => (catalog.column? name).map current

variable {catalog} {incoming : Tuple κ}

end Catalog

namespace Planner

variable {schema : Schema} {planner : Planner schema} {row : Row schema}
  {columns conflict : List String}

end Planner

end DataAccess
