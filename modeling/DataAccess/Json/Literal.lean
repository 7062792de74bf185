import DataAccess.Json.Basic
import DataAccess.Json.Fault
import DataAccess.Number.Layout

/-! Number literals of JSON. An integer literal that fits a word is that integer. Any other literal
is read in two roundings: its digits are collected in an unsigned 64-bit significand, the
significand is rounded to binary64, and the result is multiplied or divided by a power of ten. Once
another digit would not fit the significand, the remaining digits of the whole part only count
towards the exponent and the remaining places are dropped. A number that is too large fails at the
digit that makes its exponent too large to be counted, or else at its end. -/
namespace DataAccess.JsonNumber

/-- A literal taken apart: its sign, whole digits, the places if there is a point, and the signed
digits of the exponent if there is one. -/
structure Literal where
  negative : Bool
  whole : List Char
  places : Option (List Char)
  exponent : Option (Bool × List Char)

/-- Append digits to a number while it stays below a bound; the digits that are left over. -/
def collect (bound number : Nat) : List Char → Nat × List Char
  | [] => (number, [])
  | c :: rest =>
    let extended := number * 10 + (c.toNat - '0'.toNat)
    if extended < bound then collect bound extended rest else (number, c :: rest)

def significandBound : Nat := powerOfTwo 64

/-- Exponents stay below this, or are settled by their signs alone. -/
def exponentBound : Nat := powerOfTwo 31

/-- Multiply or divide by a power of ten, in steps of at most `10^308`; nothing on overflow. -/
def scaleByTen (x : Binary64) (exponent : Int) : Option Binary64 :=
  let power (n : Nat) := Binary64.ofDecimal false 1 n
  if 0 ≤ exponent then
    if exponent ≤ 308 then x.mul? (power exponent.toNat)
    else if x.isZero then some x
    else none
  else if -308 ≤ exponent then some (x.div (power (-exponent).toNat))
  else if x.isZero then some x
  else scaleByTen (x.div (power 308)) (exponent + 308)
termination_by exponent.natAbs
decreasing_by omega

def float? (negative : Bool) (significand : Nat) (exponent : Int) : Option JsonNumber :=
  (scaleByTen (Binary64.ofInt significand) exponent).bind fun x =>
    let x := if negative then x.negate else x
    if finite : x.isFinite = true then some (.float x finite) else none

/-- The number of a literal without point and exponent whose digits fit the significand. A
negative zero is no integer. -/
def integer? (negative : Bool) (significand : Nat) : Option JsonNumber :=
  if negative ∧ (significand = 0 ∨ powerOfTwo 63 < significand) then float? true significand 0
  else (WordInteger.ofInt? (if negative then -significand else significand)).map .integer

/-- The number of a literal, or nothing when it overflows. -/
def ofLiteral? (literal : Literal) : Option JsonNumber :=
  let (significand, dropped) := collect significandBound 0 literal.whole
  match literal.places, literal.exponent with
  | none, none =>
    if dropped.isEmpty then integer? literal.negative significand
    else float? literal.negative significand dropped.length
  | places, exponent =>
    let places := places.getD []
    let (significand, unread) := collect significandBound significand places
    let shift : Int := dropped.length - (places.length - unread.length : Nat)
    match exponent with
    | none => float? literal.negative significand shift
    | some (negative, digits) =>
      let (size, unread) := collect exponentBound 0 digits
      if unread.isEmpty then
        float? literal.negative significand (shift + if negative then -(size : Int) else size)
      else if significand ≠ 0 ∧ ¬negative then none
      else float? literal.negative 0 0

/-- The digits of a literal behind the one that makes its exponent too large to be counted. -/
def Literal.uncounted (literal : Literal) : List Char :=
  match literal.exponent with
  | some (_, digits) => (collect exponentBound 0 digits).2.drop 1
  | none => []

def noDigit (text : List Char) : JsonFailure :=
  (if text.isEmpty then JsonFault.endInValue else JsonFault.malformedNumber).facing text

def takeDigits (text : List Char) : Except JsonFailure (List Char × List Char) :=
  let digits := text.takeWhile Char.isDigit
  if digits.isEmpty then .error (noDigit text) else .ok (digits, text.dropWhile Char.isDigit)

/-- Read the digits of a whole part: a lone zero, or digits that start with another one. -/
def takeWhole (text : List Char) : Except JsonFailure (List Char × List Char) := do
  match ← takeDigits text with
  | ('0' :: next :: digits, rest) =>
    .error (JsonFault.malformedNumber.facing (next :: digits ++ rest))
  | read => return read

def takePlaces : List Char → Except JsonFailure (Option (List Char) × List Char)
  | '.' :: rest => do
    let (digits, rest) ← takeDigits rest
    return (some digits, rest)
  | text => .ok (none, text)

def takeExponent : List Char → Except JsonFailure (Option (Bool × List Char) × List Char)
  | c :: rest =>
    if c = 'e' ∨ c = 'E' then do
      let (negative, text) := takeSign rest
      let (digits, rest) ← takeDigits text
      return (some (negative, digits), rest)
    else .ok (none, c :: rest)
  | [] => .ok (none, [])

def takeLiteral (text : List Char) : Except JsonFailure (Literal × List Char) := do
  let (negative, text) := match text with
    | '-' :: rest => (true, rest)
    | text => (false, text)
  let (whole, text) ← takeWhole text
  let (places, text) ← takePlaces text
  let (exponent, text) ← takeExponent text
  return (⟨negative, whole, places, exponent⟩, text)

def read (text : List Char) : Except JsonFailure (JsonNumber × List Char) := do
  let (literal, rest) ← takeLiteral text
  match ofLiteral? literal with
  | some number => return (number, rest)
  | none => .error (JsonFault.numberOutOfRange.within (literal.uncounted ++ rest) 0)

end DataAccess.JsonNumber
