import DataAccess.Number.Shortest

/-! How decimal digits are laid out as text, and how such text is read. A format is a small record:
the range of decimal exponents it writes positionally, whether a whole number keeps a place after
the point, the rule for ties, and its words for the values that are no finite numbers. -/
namespace DataAccess

namespace Decimal

def digitText (d : Decimal) : List Char := (Nat.repr d.digits).toList

def leadingExponent (d : Decimal) : Int := d.digitText.length + d.exponent - 1

/-- Positional notation; a whole number is followed by `wholeSuffix`. -/
def positional (d : Decimal) (wholeSuffix : List Char) : List Char :=
  let digits := d.digitText
  let point := d.leadingExponent + 1
  if 0 ≤ d.exponent then digits ++ List.replicate d.exponent.toNat '0' ++ wholeSuffix
  else if 0 < point then digits.take point.toNat ++ '.' :: digits.drop point.toNat
  else '0' :: '.' :: List.replicate (-point).toNat '0' ++ digits

/-- Scientific notation; the sign of the exponent is always written. -/
def scientific (d : Decimal) : List Char :=
  let mantissa := match d.digitText with
    | lead :: second :: rest => lead :: '.' :: second :: rest
    | digits => digits
  let sign := if d.leadingExponent < 0 then '-' else '+'
  mantissa ++ 'e' :: sign :: (Nat.repr d.leadingExponent.natAbs).toList

end Decimal

/-- The decisions of one textual format for numbers. -/
structure NumberFormat where
  /-- which leading exponents are written positionally -/
  isPositional : Int → Bool
  /-- what follows the digits of a whole number -/
  wholeSuffix : String
  tie : Tie

def NumberFormat.finiteText (format : NumberFormat) (x : Binary64) : String :=
  let sign := if x.negative then ['-'] else []
  if x.isZero then String.ofList (sign ++ '0' :: format.wholeSuffix.toList)
  else
    let d := x.shortest format.tie
    String.ofList (sign ++
      if format.isPositional d.leadingExponent then d.positional format.wholeSuffix.toList
      else d.scientific)

/-- Plain text: digits without an exponent, however many that takes. -/
def NumberFormat.plain : NumberFormat := ⟨fun _ => true, "", .upward⟩

/-- The plain text of any number, the values beyond the finite ones by name. -/
def Binary64.plainText (x : Binary64) : String :=
  if x.isNaN then "NaN"
  else if x.isFinite then NumberFormat.plain.finiteText x
  else if x.negative then "-inf" else "inf"

def digitsValue (digits : List Char) : Nat :=
  digits.foldl (fun value c => value * 10 + (c.toNat - '0'.toNat)) 0

/-- Read an optional sign: whether it is negative, and the rest. -/
def takeSign : List Char → Bool × List Char
  | '-' :: rest => (true, rest)
  | '+' :: rest => (false, rest)
  | rest => (false, rest)

/-- Read the exponent part of a decimal that has one, to the end of the text. -/
def exponent? : List Char → Option Int
  | [] => some 0
  | c :: rest =>
    let (negative, digits) := takeSign rest
    if (c = 'e' ∨ c = 'E') ∧ digits ≠ [] ∧ digits.all Char.isDigit then
      some (if negative then -(digitsValue digits : Int) else digitsValue digits)
    else none

/-- Read a number: a decimal with an optional sign, point and exponent, rounded to the nearest
binary64 number, or one of the names `inf`, `infinity` and `nan` in any ASCII case. -/
def Binary64.ofText? (text : String) : Option Binary64 :=
  let (negative, body) := takeSign text.toList
  match String.ofList (body.map Char.toLower) with
  | "inf" | "infinity" => some (infinity negative)
  | "nan" => some nan
  | _ =>
    let whole := body.takeWhile Char.isDigit
    let afterWhole := body.dropWhile Char.isDigit
    let (places, tail) := match afterWhole with
      | '.' :: rest => (rest.takeWhile Char.isDigit, rest.dropWhile Char.isDigit)
      | rest => ([], rest)
    if whole = [] ∧ places = [] then none
    else (exponent? tail).map fun exponent =>
      ofDecimal negative (digitsValue (whole ++ places)) (exponent - places.length)

end DataAccess
