import DataAccess.Value

/-! Dialects and rendered statements. A statement is planned with one question mark for each
argument; rendering numbers the placeholders where the dialect wants that, writes nulls in place
and spreads lists. Text between quotes is copied as it stands. -/
namespace DataAccess

inductive Dialect where
  | generic
  | sqlite
  | mysql
  | postgres
deriving DecidableEq, Inhabited

namespace Dialect

def name : Dialect → String
  | generic => "generic"
  | sqlite => "sqlite"
  | mysql => "mysql"
  | postgres => "postgres"

def ofName? : String → Option Dialect
  | "generic" => some generic
  | "sqlite" => some sqlite
  | "mysql" => some mysql
  | "postgres" => some postgres
  | _ => none

/-- The dialect of a connection address, from the scheme before its first colon. -/
def ofUrl (url : String) : Dialect :=
  match String.ofList (url.toList.takeWhile (· ≠ ':')) with
  | "postgres" | "postgresql" => postgres
  | "mysql" | "mariadb" => mysql
  | "sqlite" => sqlite
  | _ => generic

/-- The placeholder of the argument at a position counted from one. -/
def placeholder (dialect : Dialect) (position : Nat) : String :=
  if dialect = postgres then "$" ++ toString position else "?"

/-- Whether a write can return columns of the row it wrote. -/
def supportsReturning (dialect : Dialect) : Bool := dialect ≠ mysql

end Dialect

structure Statement where
  sql : String
  args : List Value

mutual

/-- The slots that an argument takes: one for each scalar it holds, and an empty one for each null
and each empty list. -/
def Value.slots : Value → List (Option Value)
  | .null => [none]
  | .list [] => [none]
  | .list (item :: rest) => item.slots ++ itemSlots rest
  | value => [some value]

def itemSlots : List Value → List (Option Value)
  | [] => []
  | item :: rest => item.slots ++ itemSlots rest

end

/-- The text of slots, separated by commas, when `bound` arguments stand before them. -/
def Dialect.slotsText (dialect : Dialect) (bound : Nat) : List (Option Value) → List String
  | [] => []
  | none :: rest => "NULL" :: dialect.slotsText bound rest
  | some _ :: rest => dialect.placeholder (bound + 1) :: dialect.slotsText (bound + 1) rest

/-- Whether the text read so far ends inside quotes, and in which. -/
abbrev QuoteState := Option Char

def isQuote (c : Char) : Bool := c == '\'' || c == '"' || c == '`'

/-- The quote state after one more character. A quote of another kind inside quotes is text. -/
def QuoteState.next (state : QuoteState) (c : Char) : QuoteState :=
  match state with
  | some quote => if c = quote then none else some quote
  | none => if isQuote c then some c else none

/-- Render the rest of a statement: its text and the arguments it binds. -/
def Dialect.renderFrom (dialect : Dialect) (quote : QuoteState) (bound : Nat) :
    List Value → List Char → List Char × List Value
  | _, [] => ([], [])
  | args, c :: rest =>
    if quote = none ∧ c = '?' then
      match args with
      | [] =>
        let (text, values) := dialect.renderFrom quote bound [] rest
        ('?' :: text, values)
      | value :: args =>
        let slots := value.slots
        let scalars := slots.filterMap id
        let (text, values) := dialect.renderFrom quote (bound + scalars.length) args rest
        ((", ".intercalate (dialect.slotsText bound slots)).toList ++ text, scalars ++ values)
    else
      let (text, values) := dialect.renderFrom (quote.next c) bound args rest
      (c :: text, values)

/-- Render a statement planned with question marks. Each one outside quotes takes the next argument;
those beyond the last argument stay, and arguments beyond the last question mark are dropped. -/
def Dialect.render (dialect : Dialect) (sql : String) (args : List Value) : Statement :=
  let (text, values) := dialect.renderFrom none 0 args sql.toList
  ⟨String.ofList text, values⟩

end DataAccess
