import DataAccess.Text.Quoted.Table

/-! Quoted text, as values and identifiers appear inside messages: between double quotes, with
quotes and backslashes escaped, the common controls by letter and every character that would not
show by its number. -/
namespace DataAccess.Text

def isNumbered (c : Char) : Bool := inRanges numberedRanges c

def quotedChar (c : Char) : List Char :=
  match c with
  | '"' => ['\\', '"']
  | '\\' => ['\\', '\\']
  | '\n' => ['\\', 'n']
  | '\r' => ['\\', 'r']
  | '\t' => ['\\', 't']
  | '\x00' => ['\\', '0']
  | c =>
    if 0x20 ≤ c.toNat ∧ c.toNat < 0x7F then [c]
    else if isNumbered c then ['\\', 'u', '{'] ++ Nat.toDigits 16 c.toNat ++ ['}']
    else [c]

def quoted (text : String) : String :=
  String.ofList ('"' :: text.toList.flatMap quotedChar ++ ['"'])

end DataAccess.Text
