import DataAccess.Number.Power

/-! Unsigned words in texts: digits of some radix whose value fits 64 bits. -/
namespace DataAccess

def digitValue? (c : Char) : Option Nat :=
  if c.isDigit then some (c.toNat - '0'.toNat)
  else if 'a' ≤ c ∧ c ≤ 'f' then some (c.toNat - 'a'.toNat + 10)
  else if 'A' ≤ c ∧ c ≤ 'F' then some (c.toNat - 'A'.toNat + 10)
  else none

/-- The value of one more digit behind digits with a value. -/
def appendDigit? (radix value : Nat) (c : Char) : Option Nat :=
  match digitValue? c with
  | some digit => if digit < radix then some (value * radix + digit) else none
  | none => none

/-- The word that some digits are, if there are any and it fits. -/
def unsignedOfDigits? (radix : Nat) (digits : List Char) : Option UInt64 :=
  if digits.isEmpty then none
  else match digits.foldlM (appendDigit? radix) 0 with
    | some value => if value < powerOfTwo 64 then some (UInt64.ofNat value) else none
    | none => none

def dropPlus : List Char → List Char
  | '+' :: rest => rest
  | text => text

/-- The word of decimal digits, with or without a plus sign in front. -/
def unsigned? (text : List Char) : Option UInt64 := unsignedOfDigits? 10 (dropPlus text)

end DataAccess
