import DataAccess.Dict
import DataAccess.Number.Binary64

/-! JSON values. Numbers are the integers that fit a signed or an unsigned 64-bit word and the
finite binary64 numbers; the two kinds never compare equal. The members of an object are in
ascending key order. -/
namespace DataAccess

/-- An integer that a signed or an unsigned 64-bit word holds. -/
structure WordInteger where
  value : Int
  inRange : -0x8000000000000000 ≤ value ∧ value < 0x10000000000000000
deriving DecidableEq

namespace WordInteger

def ofInt? (value : Int) : Option WordInteger :=
  if h : -0x8000000000000000 ≤ value ∧ value < 0x10000000000000000 then some ⟨value, h⟩ else none

def ofInt64 (n : Int64) : WordInteger :=
  ⟨n.toInt, n.le_toInt, Int.lt_trans n.toInt_lt (by decide)⟩

def ofUInt64 (n : UInt64) : WordInteger :=
  ⟨n.toNat, by have := n.toNat_lt; omega⟩

/-- The integer as a signed word, if one holds it. -/
def toInt64? (n : WordInteger) : Option Int64 :=
  if n.value < 0x8000000000000000 then some (Int64.ofInt n.value) else none

/-- The integer as an unsigned word. A negative integer becomes zero. -/
def toUInt64 (n : WordInteger) : UInt64 := UInt64.ofNat n.value.toNat

end WordInteger

inductive JsonNumber where
  | integer (value : WordInteger)
  | float (value : Binary64) (finite : value.isFinite = true)
deriving DecidableEq

/-- Numeric equality within one kind of number. -/
def JsonNumber.same : JsonNumber → JsonNumber → Bool
  | .integer m, .integer n => m == n
  | .float x _, .float y _ => x.same y
  | _, _ => false

inductive Json where
  | null
  | bool (value : Bool)
  | number (value : JsonNumber)
  | string (value : String)
  | array (items : List Json)
  | object (members : List (String × Json))

namespace Json

instance : Inhabited Json := ⟨null⟩

/-- The object with the given members; the last one with a key counts. -/
def ofMembers (members : List (String × Json)) : Json := object (Dict.ofList members).entries

def ofInt64 (n : Int64) : Json := number (.integer (.ofInt64 n))

def ofUInt64 (n : UInt64) : Json := number (.integer (.ofUInt64 n))

/-- The JSON form of a number, `null` for the values that JSON has no number for. -/
def ofBinary64 (x : Binary64) : Json :=
  if finite : x.isFinite = true then number (.float x finite) else null

/-- The member of an object, `null` if there is none. -/
def get : Json → String → Json
  | object members, key => (members.lookup key).getD null
  | _, _ => null

/-- The name of an alternative without data: a string, or an object that maps it to null. -/
def alternative? : Json → Option String
  | string name => some name
  | object [(name, null)] => some name
  | _ => none

mutual

def same : Json → Json → Bool
  | null, null => true
  | bool a, bool b => a == b
  | number m, number n => m.same n
  | string s, string t => s == t
  | array xs, array ys => sameItems xs ys
  | object ms, object ns => sameMembers ms ns
  | _, _ => false

def sameItems : List Json → List Json → Bool
  | [], [] => true
  | x :: xs, y :: ys => same x y && sameItems xs ys
  | _, _ => false

def sameMembers : List (String × Json) → List (String × Json) → Bool
  | [], [] => true
  | (k, x) :: xs, (l, y) :: ys => k == l && same x y && sameMembers xs ys
  | _, _ => false

end

end Json

end DataAccess
