import DataAccess.Number.Unsigned
import DataAccess.Yaml.Node
import DataAccess.Yaml.Reader

/-! A reader of a part of YAML: block and flow collections with plain and quoted scalars, without
anchors, tags, directives and block scalars. -/
namespace DataAccess.Yaml

def isNullText (text : String) : Bool := ["", "~", "null", "Null", "NULL"].contains text

/-- Whether digits with a sign in front have a zero in front of others; those are no number. -/
def hasLeadingZero (text : List Char) : Bool :=
  match (match text with | '-' :: rest => rest | text => dropPlus text) with
  | '0' :: c :: rest => (c :: rest).all Char.isDigit
  | _ => false

/-- The word that a plain scalar is: decimal, or hexadecimal, octal or binary behind a prefix. -/
def wordOfPlain? (text : List Char) : Option UInt64 :=
  match dropPlus text with
  | '0' :: 'x' :: digits => unsignedOfDigits? 16 digits
  | '0' :: 'o' :: digits => unsignedOfDigits? 8 digits
  | '0' :: 'b' :: digits => unsignedOfDigits? 2 digits
  | digits => if hasLeadingZero text then none else unsignedOfDigits? 10 digits

namespace Node

def isNull : Node → Bool
  | .scalar plain text => plain && isNullText text
  | _ => false

def word? : Node → Option UInt64
  | .scalar true text => wordOfPlain? text.toList
  | _ => none

def text? : Node → Option String
  | .scalar _ text => some text
  | _ => none

/-- The entries of a mapping, whose keys must be scalars. A scalar without content has none. -/
def entries? : Node → Option (List (String × Node))
  | .mapping entries => entries.mapM fun (key, value) => do return (← key.text?, value)
  | .scalar true text => if text = "" then some [] else none
  | _ => none

end Node

def subset : Reader := ⟨Node, document?, Node.isNull, Node.entries?, Node.word?, Node.text?,
  Node.text?⟩

end DataAccess.Yaml
