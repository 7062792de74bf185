import DataAccess.Text.Quoted
import DataAccess.Value

/-! Identities of rows. An entity has one of five identity types; the backend carries an identity as
text, a signed word or an unsigned word. Going to the backend never fails, and coming back succeeds
exactly when the type can hold what is carried, whichever of the two words carries it. -/
namespace DataAccess

/-- An identity as the backend carries it. -/
inductive IdValue where
  | text (value : String)
  | int (value : Int64)
  | uint (value : UInt64)
deriving DecidableEq

namespace IdValue

def toValue : IdValue → Value
  | text s => .text s
  | int n => .int n
  | uint n => .uint n

/-- Read an identity off a value: text and integers only. -/
def ofValue? : Value → Option IdValue
  | .text s => some (text s)
  | .int n => some (int n)
  | .uint n => some (uint n)
  | _ => none

/-- The integer that an identity denotes, if it is one. -/
def integer? : IdValue → Option Int
  | text _ => none
  | int n => some n.toInt
  | uint n => some n.toNat

def describe : IdValue → String
  | text s => "Text(" ++ Text.quoted s ++ ")"
  | int n => "Int(" ++ toString n.toInt ++ ")"
  | uint n => "UInt(" ++ toString n.toNat ++ ")"

end IdValue

inductive IdType where
  | text
  | i32
  | i64
  | u32
  | u64
deriving DecidableEq

namespace IdType

def name : IdType → String
  | text => "text"
  | i32 => "i32"
  | i64 => "i64"
  | u32 => "u32"
  | u64 => "u64"

abbrev Carrier : IdType → Type
  | text => String
  | i32 => Int32
  | i64 => Int64
  | u32 => UInt32
  | u64 => UInt64

/-- The integers of an integer type, by their bounds: the least one and the first one beyond. -/
def bounds : IdType → Int × Int
  | text => (0, 0)
  | i32 => (-0x80000000, 0x80000000)
  | i64 => (-0x8000000000000000, 0x8000000000000000)
  | u32 => (0, 0x100000000)
  | u64 => (0, 0x10000000000000000)

def holds (type : IdType) (n : Int) : Bool :=
  decide (type.bounds.1 ≤ n ∧ n < type.bounds.2)

/-- The identity with an integer value; the value is reduced to the width of the type. -/
def ofInt : (type : IdType) → Int → type.Carrier
  | text, n => toString n
  | i32, n => Int32.ofInt n
  | i64, n => Int64.ofInt n
  | u32, n => UInt32.ofNat n.toNat
  | u64, n => UInt64.ofNat n.toNat

/-- The backend's form of an identity. Signed types travel as signed words, unsigned types as
unsigned words. -/
def toIdValue : (type : IdType) → type.Carrier → IdValue
  | text, id => .text id
  | i32, id => .int (Int64.ofInt id.toInt)
  | i64, id => .int id
  | u32, id => .uint (UInt64.ofNat id.toNat)
  | u64, id => .uint id

/-- The identity of a type that the backend's form denotes, if the type holds it. -/
def ofIdValue? (type : IdType) (carried : IdValue) : Option type.Carrier :=
  match type, carried with
  | text, .text s => some s
  | text, _ => none
  | type, carried =>
    match carried.integer? with
    | some n => if type.holds n then some (type.ofInt n) else none
    | none => none

/-- The text of an identity in messages: texts in quotes, integers in decimal. -/
def describe (type : IdType) (id : type.Carrier) : String :=
  match type.toIdValue id with
  | .text s => Text.quoted s
  | .int n => toString n.toInt
  | .uint n => toString n.toNat

end IdType

end DataAccess
