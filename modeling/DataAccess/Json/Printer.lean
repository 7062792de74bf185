import DataAccess.Json.Basic
import DataAccess.Number.Layout

/-! Compact JSON text: no blanks, members in key order, and only those characters escaped that
must be. -/
namespace DataAccess

/-- Numbers in JSON text are positional for leading exponents from -5 to 15; a whole number keeps
one place, and a tie between shortest decimals goes to the even digit. -/
def NumberFormat.json : NumberFormat := ⟨fun e => decide (-5 ≤ e ∧ e ≤ 15), ".0", .toEven⟩

namespace Json

def escapedChar (c : Char) : List Char :=
  match c with
  | '"' => ['\\', '"']
  | '\\' => ['\\', '\\']
  | '\n' => ['\\', 'n']
  | '\r' => ['\\', 'r']
  | '\t' => ['\\', 't']
  | '\x08' => ['\\', 'b']
  | '\x0c' => ['\\', 'f']
  | c =>
    if c.toNat < 0x20 then
      ['\\', 'u', '0', '0', Nat.digitChar (c.toNat / 16), Nat.digitChar (c.toNat % 16)]
    else [c]

def stringText (s : String) : String :=
  String.ofList ('"' :: s.toList.flatMap escapedChar ++ ['"'])

def numberText : JsonNumber → String
  | .integer n => toString n.value
  | .float x _ => NumberFormat.json.finiteText x

mutual

def text : Json → String
  | null => "null"
  | bool b => if b then "true" else "false"
  | number n => numberText n
  | string s => stringText s
  | array items => "[" ++ ",".intercalate (itemTexts items) ++ "]"
  | object members => "\x7b" ++ ",".intercalate (memberTexts members) ++ "\x7d"

def itemTexts : List Json → List String
  | [] => []
  | item :: rest => text item :: itemTexts rest

def memberTexts : List (String × Json) → List String
  | [] => []
  | (key, value) :: rest => (stringText key ++ ":" ++ text value) :: memberTexts rest

end

end Json

end DataAccess
