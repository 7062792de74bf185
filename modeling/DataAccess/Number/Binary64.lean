import DataAccess.Number.Power

/-! Binary64 numbers, given by their sixty-four bits. Every operation is exact natural-number
arithmetic followed by one rounding to the nearest representable number, ties to an even
significand; nothing here consults the machine's floating-point unit, so each result can be
computed inside a proof. Magnitudes are counted in units of `2^-1074`, the least positive
number of the format. -/
namespace DataAccess

/-- The nearest integer to `numerator / denominator`; a tie goes to the even neighbour. -/
def nearestEven (numerator denominator : Nat) : Nat :=
  let quotient := numerator / denominator
  let twice := 2 * (numerator % denominator)
  if twice < denominator then quotient
  else if denominator < twice then quotient + 1
  else if quotient % 2 = 0 then quotient else quotient + 1

/-- A binary format: significands of `precision` bits, counted in units of `2^-unit` and shifted
left by at most `topShift`. -/
structure BinaryFormat where
  precision : Nat
  unit : Nat
  topShift : Nat

namespace BinaryFormat

def double : BinaryFormat := ⟨53, 1074, 2045⟩

def single : BinaryFormat := ⟨24, 149, 253⟩

/-- Round `numerator / denominator` to the format: the significand and its shift, or nothing when
the nearest number lies beyond the largest finite one. -/
def round (format : BinaryFormat) (numerator denominator : Nat) : Option (Nat × Nat) :=
  let scaled := numerator * powerOfTwo format.unit
  let shift := Nat.log2 (scaled / denominator) + 1 - format.precision
  let significand := nearestEven scaled (denominator * powerOfTwo shift)
  let result :=
    if significand = powerOfTwo format.precision then (powerOfTwo (format.precision - 1), shift + 1)
    else (significand, shift)
  if result.2 ≤ format.topShift then some result else none

end BinaryFormat

/-- A binary64 number by its encoding. Two of them are equal as data when their bits are; `same`
is the comparison of the numbers. -/
structure Binary64 where
  bits : UInt64
deriving DecidableEq, Inhabited

namespace Binary64

def word (x : Binary64) : Nat := x.bits.toNat

def negative (x : Binary64) : Bool := decide (powerOfTwo 63 ≤ x.word)

def biasedExponent (x : Binary64) : Nat := x.word / powerOfTwo 52 % powerOfTwo 11

def fraction (x : Binary64) : Nat := x.word % powerOfTwo 52

def isFinite (x : Binary64) : Bool := x.biasedExponent != 2047

def isNaN (x : Binary64) : Bool := x.biasedExponent == 2047 && x.fraction != 0

def significand (x : Binary64) : Nat :=
  if x.biasedExponent = 0 then x.fraction else powerOfTwo 52 + x.fraction

def shift (x : Binary64) : Nat := x.biasedExponent - 1

/-- The absolute value of a finite number, in units of `2^-1074`. -/
def magnitude (x : Binary64) : Nat := x.significand * powerOfTwo x.shift

def isZero (x : Binary64) : Bool := x.isFinite && x.magnitude == 0

/-- Numeric equality: a NaN differs from everything, and the two zeros are the same. -/
def same (x y : Binary64) : Bool :=
  !x.isNaN && !y.isNaN && (x == y || (x.isZero && y.isZero))

def signBit (negative : Bool) : Nat := if negative then powerOfTwo 63 else 0

def ofParts (negative : Bool) (significand shift : Nat) : Binary64 :=
  let encoding :=
    if significand < powerOfTwo 52 then significand
    else (shift + 1) * powerOfTwo 52 + (significand - powerOfTwo 52)
  ⟨UInt64.ofNat (signBit negative + encoding)⟩

def zero (negative : Bool) : Binary64 := ⟨UInt64.ofNat (signBit negative)⟩

def infinity (negative : Bool) : Binary64 :=
  ⟨UInt64.ofNat (signBit negative + 2047 * powerOfTwo 52)⟩

/-- The one NaN this library produces. -/
def nan : Binary64 := ⟨0x7ff8000000000000⟩

def negate (x : Binary64) : Binary64 := ⟨x.bits ^^^ 0x8000000000000000⟩

/-- The number nearest to a ratio, or nothing when it overflows. -/
def ofRatio? (negative : Bool) (numerator denominator : Nat) : Option Binary64 :=
  (BinaryFormat.double.round numerator denominator).map fun (significand, shift) =>
    ofParts negative significand shift

/-- The number nearest to a ratio; an overflow becomes an infinity. -/
def ofRatio (negative : Bool) (numerator denominator : Nat) : Binary64 :=
  (ofRatio? negative numerator denominator).getD (infinity negative)

def ofInt (n : Int) : Binary64 := ofRatio (n < 0) n.natAbs 1

/-- The number nearest to `digits * 10^exponent`. Exponents far outside the format's range are
settled by size alone, so no power is larger than the digits call for. -/
def ofDecimal (negative : Bool) (digits : Nat) (exponent : Int) : Binary64 :=
  if digits = 0 then zero negative
  else if 310 < exponent then infinity negative
  else if exponent < -((Nat.log2 digits : Int) + 340) then zero negative
  else if 0 ≤ exponent then ofRatio negative (digits * powerOfTen exponent.toNat) 1
  else ofRatio negative digits (powerOfTen (-exponent).toNat)

def mul? (x y : Binary64) : Option Binary64 :=
  ofRatio? (x.negative ^^ y.negative) (x.magnitude * y.magnitude) (powerOfTwo (2 * 1074))

/-- The rounded quotient of two finite numbers, the divisor not zero. -/
def div (x y : Binary64) : Binary64 :=
  ofRatio (x.negative ^^ y.negative) x.magnitude y.magnitude

/-- Round to single precision and widen the result again, which loses nothing further. -/
def toSingle (x : Binary64) : Binary64 :=
  if x.isFinite then
    match BinaryFormat.single.round x.magnitude (powerOfTwo 1074) with
    | some (significand, shift) =>
      ofRatio x.negative (significand * powerOfTwo shift) (powerOfTwo 149)
    | none => infinity x.negative
  else x

end Binary64

end DataAccess
