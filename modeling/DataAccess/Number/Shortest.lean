import DataAccess.Number.Binary64

/-! The shortest decimal of a binary64 number. Among the decimals that round to a given number,
take one with the fewest digits, and of those the nearest. Exactly two decimals of a length can be
equally near; which of the two is written is left to the format that asks. -/
namespace DataAccess

structure Decimal where
  digits : Nat
  exponent : Int
deriving DecidableEq

/-- Where an exact tie between two shortest decimals goes. -/
inductive Tie where
  | toEven
  | upward
deriving DecidableEq

namespace Decimal

/-- Compare `d` with `n / 2^1076`, exactly. -/
def compareQuarterUnits (d : Decimal) (n : Nat) : Ordering :=
  compare (d.digits * powerOfTen d.exponent.toNat * powerOfTwo 1076)
    (n * powerOfTen (-d.exponent).toNat)

/-- Move trailing zeros of the digits into the exponent, at most `steps` of them. -/
def strip : Nat → Decimal → Decimal
  | 0, d => d
  | steps + 1, d =>
    if d.digits ≠ 0 ∧ d.digits % 10 = 0 then strip steps ⟨d.digits / 10, d.exponent + 1⟩ else d

end Decimal

namespace Binary64

/-- The lower end of the reals that round to `x`, in quarters of a unit. Below a power of two the
neighbouring gap is half as wide. -/
def lowerEnd (x : Binary64) : Nat :=
  (4 * x.significand - if x.fraction = 0 ∧ 1 < x.biasedExponent then 1 else 2) *
    powerOfTwo x.shift

/-- The upper end of the reals that round to `x`, in quarters of a unit. -/
def upperEnd (x : Binary64) : Nat := (4 * x.significand + 2) * powerOfTwo x.shift

/-- Whether a decimal rounds to the finite positive number `x`. The ends of the interval round to
`x` exactly when its significand is even. -/
def readsBack (x : Binary64) (d : Decimal) : Bool :=
  let closed := x.significand % 2 == 0
  let below := d.compareQuarterUnits x.lowerEnd
  let above := d.compareQuarterUnits x.upperEnd
  (below == .gt || (closed && below == .eq)) && (above == .lt || (closed && above == .eq))

def belowPower (x : Binary64) (k : Int) : Bool :=
  decide (x.magnitude * powerOfTen (-k).toNat < powerOfTen k.toNat * powerOfTwo 1074)

/-- The least `k` with `x < 10^k`: an estimate from the binary logarithm, then one step either
way. -/
def decimalScale (x : Binary64) : Int :=
  let estimate := Int.fdiv (((Nat.log2 x.magnitude : Int) - 1074) * 30103) 100000 + 1
  if x.belowPower (estimate - 1) then estimate - 1
  else if x.belowPower estimate then estimate
  else estimate + 1

/-- The two neighbours of `x` on the grid of multiples of `10^exponent` that read back, reduced to
the nearer one. -/
def onGrid? (x : Binary64) (tie : Tie) (exponent : Int) : Option Decimal :=
  let numerator := x.magnitude * powerOfTen (-exponent).toNat
  let denominator := powerOfTen exponent.toNat * powerOfTwo 1074
  let low := numerator / denominator
  let lower : Decimal := ⟨low, exponent⟩
  let upper : Decimal := ⟨low + 1, exponent⟩
  match x.readsBack lower, x.readsBack upper with
  | true, true =>
    match compare (2 * numerator) ((2 * low + 1) * denominator) with
    | .lt => some lower
    | .gt => some upper
    | .eq => some (if tie = .toEven ∧ low % 2 = 0 then lower else upper)
  | true, false => some lower
  | false, true => some upper
  | false, false => none

/-- The shortest decimal of a finite positive number: the first grid of one to seventeen digits
with a member that reads back, else the exact value. -/
def shortest (x : Binary64) (tie : Tie) : Decimal :=
  let scale := x.decimalScale
  let found := (List.range 17).findSome? fun n => x.onGrid? tie (scale - (n + 1 : Nat))
  (found.getD ⟨x.magnitude * Nat.pow 5 1074, -1074⟩).strip 20

end Binary64

end DataAccess
