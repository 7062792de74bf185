import DataAccess.Value
import DataAccess.Text.Lowercase

/-! Composable predicates. A condition is a chain of operands tied by `AND` and `OR`; an operand is
a leaf or another condition. Compilation writes the chain from left to right, puts an operand in
parentheses when it is a chain itself or a raw fragment, and leaves out operands that compile to
nothing together with the connective in front of them. -/
namespace DataAccess

inductive Connective where
  | and
  | or
deriving DecidableEq

def Connective.name : Connective → String
  | and => "AND"
  | or => "OR"

inductive Comparison where
  | eq
  | ne
  | gt
  | gte
  | lt
  | lte
deriving DecidableEq

def Comparison.symbol : Comparison → String
  | eq => "="
  | ne => "!="
  | gt => ">"
  | gte => ">="
  | lt => "<"
  | lte => "<="

/-- A predicate on one column, or a raw fragment with its own placeholders. -/
inductive Leaf where
  | compare (column : String) (comparison : Comparison) (value : Value)
  | inList (column : String) (values : List Value)
  | notInList (column : String) (values : List Value)
  | like (column pattern : String)
  /-- the column is lowered by the backend, the pattern here -/
  | likeLowered (column pattern : String)
  | isNull (column : String)
  | isNotNull (column : String)
  | between (column : String) (low high : Value)
  | notBetween (column : String) (low high : Value)
  | raw (sql : String) (args : List Value)

namespace Leaf

/-- The SQL of a leaf, with question marks for its arguments. Nothing is excluded by an empty
list. -/
def fragment : Leaf → String
  | compare column comparison _ => column ++ " " ++ comparison.symbol ++ " ?"
  | inList column _ => column ++ " IN (?)"
  | notInList _ [] => "1 = 1"
  | notInList column (_ :: _) => column ++ " NOT IN (?)"
  | like column _ => column ++ " LIKE ?"
  | likeLowered column _ => "LOWER(" ++ column ++ ") LIKE ?"
  | isNull column => column ++ " IS NULL"
  | isNotNull column => column ++ " IS NOT NULL"
  | between column _ _ => column ++ " BETWEEN ? AND ?"
  | notBetween column _ _ => column ++ " NOT BETWEEN ? AND ?"
  | raw sql _ => sql

/-- The arguments of a leaf, in the order of its placeholders. -/
def args : Leaf → List Value
  | compare _ _ value => [value]
  | inList _ values => [.list values]
  | notInList _ [] => []
  | notInList _ (value :: values) => [.list (value :: values)]
  | like _ pattern => [.text pattern]
  | likeLowered _ pattern => [.text (Text.lowercase pattern)]
  | isNull _ => []
  | isNotNull _ => []
  | between _ low high => [low, high]
  | notBetween _ low high => [low, high]
  | raw _ args => args

def isRaw : Leaf → Bool
  | raw _ _ => true
  | _ => false

end Leaf

inductive Condition where
  /-- no operand at all -/
  | empty
  | leaf (leaf : Leaf)
  /-- a chain whose only operand is another condition -/
  | group (operand : Condition)
  /-- a chain with one more operand -/
  | join (chain : Condition) (connective : Connective) (operand : Condition)

instance : Inhabited Condition := ⟨.empty⟩

/-- SQL text with question marks, and the arguments in the order of the question marks. -/
structure Fragment where
  sql : String
  args : List Value

namespace Fragment

def blank : Fragment := ⟨"", []⟩

def isBlank (fragment : Fragment) : Bool := fragment.sql == ""

def inParentheses (fragment : Fragment) : Fragment := ⟨"(" ++ fragment.sql ++ ")", fragment.args⟩

/-- An operand with nothing to say, with or without parentheses, is blank. -/
def orBlank (fragment : Fragment) : Fragment :=
  if fragment.sql = "" ∨ fragment.sql = "()" then blank else fragment

/-- Tie two fragments; a blank one takes the connective with it. -/
def tie (connective : Connective) (left right : Fragment) : Fragment :=
  if right.isBlank then left
  else if left.isBlank then right
  else ⟨left.sql ++ " " ++ connective.name ++ " " ++ right.sql, left.args ++ right.args⟩

end Fragment

namespace Condition

def compare (column : String) (comparison : Comparison) (value : Value) : Condition :=
  leaf (.compare column comparison value)

def eq (column : String) (value : Value) : Condition := compare column .eq value

/-- The column equals one of the values; a scalar counts as a list of itself. -/
def inList (column : String) (values : Value) : Condition := leaf (.inList column values.toItems)

/-- The column equals none of the values. -/
def notInList (column : String) (values : Value) : Condition :=
  leaf (.notInList column values.toItems)

def likeLowered (column pattern : String) : Condition := leaf (.likeLowered column pattern)

/-- The column holds the needle somewhere, in any case. -/
def contains (column needle : String) : Condition := likeLowered column ("%" ++ needle ++ "%")

def startsWith (column needle : String) : Condition := likeLowered column (needle ++ "%")

def endsWith (column needle : String) : Condition := likeLowered column ("%" ++ needle)

def raw (sql : String) (args : List Value) : Condition := leaf (.raw sql args)

/-- Append an operand to a chain. The first operand of a chain stands without a connective. -/
def append (connective : Connective) : Condition → Condition → Condition
  | empty, operand => group operand
  | chain, operand => join chain connective operand

def and (chain operand : Condition) : Condition := append .and chain operand

def or (chain operand : Condition) : Condition := append .or chain operand

def isEmpty : Condition → Bool
  | empty => true
  | _ => false

def isJoin : Condition → Bool
  | join _ _ _ => true
  | _ => false

def isRawLeaf : Condition → Bool
  | leaf l => l.isRaw
  | _ => false

/-- Whether the compiled text may have a connective outside parentheses. A lone raw fragment counts,
since its text may hold one. -/
def isComposite (condition : Condition) : Bool := condition.isJoin || condition.isRawLeaf

/-- Compile an operand: chains and raw fragments go into parentheses. -/
def operandFragment (operand : Condition) (compiled : Fragment) : Fragment :=
  if operand.isJoin || operand.isRawLeaf then compiled.inParentheses.orBlank else compiled.orBlank

def compile : Condition → Fragment
  | empty => .blank
  | leaf l => Fragment.orBlank ⟨l.fragment, l.args⟩
  | group operand => operandFragment operand operand.compile
  | join chain connective operand =>
    Fragment.tie connective chain.compile (operandFragment operand operand.compile)

end Condition

end DataAccess
