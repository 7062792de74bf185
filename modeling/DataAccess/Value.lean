import DataAccess.Json.Printer

/-! Argument values. Every predicate and statement carries its arguments as values of one type. A
list is meant for the single placeholder of an `IN` predicate and is expanded when a statement is
rendered. -/
namespace DataAccess

inductive Value where
  | null
  | bool (value : Bool)
  | int (value : Int64)
  | uint (value : UInt64)
  | float (value : Binary64)
  | text (value : String)
  | json (value : Json)
  | list (items : List Value)

namespace Value

instance : Inhabited Value := ⟨null⟩

def isNull : Value → Bool
  | null => true
  | _ => false

def asText? : Value → Option String
  | text s => some s
  | _ => none

def kind : Value → String
  | null => "null"
  | bool _ => "bool"
  | int _ => "int"
  | uint _ => "uint"
  | float _ => "float"
  | text _ => "text"
  | json _ => "json"
  | list _ => "list"

/-- The items of a list; any other value is a list of itself. -/
def toItems : Value → List Value
  | list items => items
  | value => [value]

mutual

/-- The text of a value where a text operator needs one. The items of a list are joined by commas,
and null is empty. -/
def toText : Value → String
  | null => ""
  | bool b => if b then "true" else "false"
  | int n => toString n.toInt
  | uint n => toString n.toNat
  | float x => x.plainText
  | text s => s
  | json j => j.text
  | list items => ",".intercalate (itemTexts items)

def itemTexts : List Value → List String
  | [] => []
  | item :: rest => toText item :: itemTexts rest

end

mutual

/-- Read a JSON value: integers become signed words when they fit, arrays become lists, and objects
stay as they are. -/
def ofJson : Json → Value
  | .null => null
  | .bool b => bool b
  | .number (.integer n) =>
    match n.toInt64? with
    | some signed => int signed
    | none => uint n.toUInt64
  | .number (.float x _) => float x
  | .string s => text s
  | .array items => list (ofItems items)
  | .object members => json (.object members)

def ofItems : List Json → List Value
  | [] => []
  | item :: rest => ofJson item :: ofItems rest

end

mutual

/-- The JSON form of a value. Numbers that are not finite become null. -/
def toJson : Value → Json
  | null => .null
  | bool b => .bool b
  | int n => .ofInt64 n
  | uint n => .ofUInt64 n
  | float x => .ofBinary64 x
  | text s => .string s
  | json j => j
  | list items => .array (itemsToJson items)

def itemsToJson : List Value → List Json
  | [] => []
  | item :: rest => toJson item :: itemsToJson rest

end

mutual

/-- Equality of values within one kind. Floats are compared as numbers, so NaN differs from
itself. -/
def same : Value → Value → Bool
  | null, null => true
  | bool a, bool b => a == b
  | int m, int n => m == n
  | uint m, uint n => m == n
  | float x, float y => x.same y
  | text s, text t => s == t
  | json j, json k => j.same k
  | list xs, list ys => sameItems xs ys
  | _, _ => false

def sameItems : List Value → List Value → Bool
  | [], [] => true
  | x :: xs, y :: ys => same x y && sameItems xs ys
  | _, _ => false

end

end Value

end DataAccess
