import DataAccess.Json.Printer
import DataAccess.Text.Quoted

/-! JSON values as messages name them. -/
namespace DataAccess

/-- A JSON value as a message names it. -/
def Json.describe : Json → String
  | .null => "null"
  | .bool b => "boolean `" ++ (if b then "true" else "false") ++ "`"
  | .number (.integer n) => "integer `" ++ toString n.value ++ "`"
  | .number (.float x finite) => "floating point `" ++ Json.numberText (.float x finite) ++ "`"
  | .string s => "string " ++ Text.quoted s
  | .array _ => "sequence"
  | .object _ => "map"

end DataAccess
