import DataAccess.Listing.Request
import DataAccess.Spec
import DataAccess.Sql.Condition

/-! Compiling the filters of a request. The search term becomes one alternative over the searchable
columns, and each declared filter with a value becomes one comparison. Keys that the specification
does not declare are ignored, and so are null values. -/
namespace DataAccess

namespace FilterKind

/-- The comparison that a kind prescribes for a value. An equality with a list is membership. -/
def condition (kind : FilterKind) (column : String) (value : Value) : Condition :=
  match kind, value with
  | equal, .list items => .inList column (.list items)
  | equal, value => .eq column value
  | «in», value => .inList column value
  | notIn, value => .notInList column value
  | lt, value => .compare column .lt value
  | gt, value => .compare column .gt value
  | lte, value => .compare column .lte value
  | gte, value => .compare column .gte value
  | contains, value => .contains column value.toText

end FilterKind

namespace Spec

/-- The alternative that some searchable column contains the term. -/
def searchCondition (spec : Spec) (term : String) : Condition :=
  spec.searchable.foldl (fun chain column => chain.or (.contains column term)) .empty

/-- The comparison of one filter, if the key is declared and the value is not null. -/
def filterCondition? (spec : Spec) (key : String) (value : Value) : Option Condition :=
  match spec.filterable.get? key with
  | some field =>
    if value.isNull then none
    else some (field.kind.condition (field.column.getD key) value)
  | none => none

/-- The operands of a compiled request: the search, then the filters in key order. -/
def requestOperands (spec : Spec) (request : ListingRequest) : List Condition :=
  let search := match request.searchTerm? with
    | some term => if spec.searchable.isEmpty then [] else [spec.searchCondition term]
    | none => []
  search ++ request.filters.entries.filterMap fun (key, value) => spec.filterCondition? key value

def compile (spec : Spec) (request : ListingRequest) : Condition :=
  (spec.requestOperands request).foldl Condition.and .empty

end Spec

end DataAccess
