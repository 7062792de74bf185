import DataAccess.Proofs.Sql.Formula
import DataAccess.Proofs.Sql.Token

/-! Reading a predicate as a backend does: parentheses first, then `AND` before `OR`, and the first
`AND` behind a `BETWEEN` belongs to it. What is not taken apart is an atom, kept as its tokens: a
comparison, a call, a negation. A text read is a chain of units, each an atom or the formula of a
text in parentheses. -/
namespace DataAccess.Sql

abbrev Atom := List Token

/-- A token, or a text in parentheses with its formula if it has one. -/
inductive Item where
  | single (token : Token)
  | group (inside : List Token) (formula : Option (Formula Atom))

def Token.isKeyword (name : String) : Token → Bool
  | word text => text.map Char.toLower == name.toList
  | _ => false

namespace Item

def tokens : Item → List Token
  | single token => [token]
  | group inside _ => .mark '(' :: inside ++ [.mark ')']

def connective? : Item → Option Connective
  | single token =>
    if token.isKeyword "and" then some .and
    else if token.isKeyword "or" then some .or
    else none
  | group _ _ => none

def isBetween : Item → Bool
  | single token => token.isKeyword "between"
  | group _ _ => false

/-- Whether an item neither ties operands nor takes part in a `BETWEEN`. -/
def isPlain (item : Item) : Bool := item.connective?.isNone && !item.isBetween

end Item

def pushItem (item : Item) : List (Connective × List Item) → List (Connective × List Item)
  | [] => []
  | (connective, operand) :: rest => (connective, item :: operand) :: rest

/-- Cut a text at its connectives. The first operand is given a connective, and `betweens` counts
the `BETWEEN`s in it that still wait for their `AND`. -/
def operands? (connective : Connective) :
    Nat → List Item → Option (List (Connective × List Item))
  | betweens, [] => if betweens = 0 then some [(connective, [])] else none
  | betweens, item :: rest =>
    match item.connective? with
    | none =>
      (operands? connective (if item.isBetween then betweens + 1 else betweens) rest).map
        (pushItem item)
    | some next =>
      if betweens = 0 then (operands? next 0 rest).map ((connective, []) :: ·)
      else if next = .and then (operands? connective (betweens - 1) rest).map (pushItem item)
      else none

def unit? : List Item → Option (Formula Atom)
  | [] => none
  | [.group _ formula] => formula
  | items => some (.atom (items.flatMap Item.tokens))

def unitsOf? (connective : Connective) (items : List Item) :
    Option (List (Connective × Formula Atom)) :=
  (operands? connective 0 items).bind
    (·.mapM fun operand => (unit? operand.2).map (operand.1, ·))

def formulaOf? (items : List Item) : Option (Formula Atom) :=
  (unitsOf? .and items).bind Formula.ofChain?

/-- Put a token in front of the innermost text that is being read. Texts are read from the right, so
a closing parenthesis opens a text and an opening one completes it. -/
def place? : Token → List (List Item) → Option (List (List Item))
  | .mark ')', texts => some ([] :: texts)
  | .mark '(', inside :: outer :: texts =>
    some ((.group (inside.flatMap Item.tokens) (formulaOf? inside) :: outer) :: texts)
  | .mark '(', _ => none
  | token, text :: texts => some ((.single token :: text) :: texts)
  | _, [] => none

/-- The texts that the tokens leave open, the innermost first and the whole text last. -/
def nest? : List Token → Option (List (List Item))
  | [] => some [[]]
  | token :: rest => (nest? rest).bind (place? token)

def items? (text : String) : Option (List Item) :=
  match (tokens? text.toList).bind nest? with
  | some [items] => some items
  | _ => none

/-- The units of a text and the connectives in front of them, the first of which is given. Nothing
is read as no units. -/
def units? (connective : Connective) (text : String) : Option (List (Connective × Formula Atom)) :=
  if text = "" then some [] else (items? text).bind (unitsOf? connective)

def parse? (text : String) : Option (Formula Atom) := (units? .and text).bind Formula.ofChain?

theorem parse?_of_units? {text : String} {units : List (Connective × Formula Atom)}
    {formula : Formula Atom} (read : units? .and text = some units)
    (whole : Formula.ofChain? units = some formula) : parse? text = some formula := by
  rw [parse?, read, Option.bind_some, whole]

end DataAccess.Sql
