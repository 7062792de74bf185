import DataAccess.Value
import Mathlib.Data.List.Forall2
import Mathlib.Data.Nat.Digits.Defs

/-! How values are spelled in a text. A numeral has no zero in front of other digits, so that a
number has one. What a value is turned into where a text is needed is its only spelling. -/
namespace DataAccess

/-- A digit of a decimal number. -/
def IsDecimal (c : Char) : Prop := '0' ≤ c ∧ c ≤ '9'

/-- Decimal digits that write a number, without a zero in front. -/
structure IsNumeral (digits : List Char) (number : ℕ) : Prop where
  present : digits ≠ []
  decimal : ∀ c ∈ digits, IsDecimal c
  short : digits.head? = some '0' → digits = ['0']
  worth : Nat.ofDigitChars 10 digits 0 = number

/-- The spellings of a value. The items of a list stand between commas, and null is not seen. -/
inductive Value.Spells : Value → String → Prop
  | null : Spells .null ""
  | yes : Spells (.bool true) "true"
  | no : Spells (.bool false) "false"
  | unsigned {number : UInt64} {text : String} (numeral : IsNumeral text.toList number.toNat) :
    Spells (.uint number) text
  | signed {number : Int64} {text : String} {magnitude : ℕ} (worth : number.toInt = magnitude)
    (numeral : IsNumeral text.toList magnitude) : Spells (.int number) text
  | negative {number : Int64} {text : String} {magnitude : ℕ} (below : number.toInt < 0)
    (worth : number.toInt = -magnitude) (numeral : IsNumeral text.toList magnitude) :
    Spells (.int number) ("-" ++ text)
  | float (number : Binary64) : Spells (.float number) number.plainText
  | text (text : String) : Spells (.text text) text
  | json (document : Json) : Spells (.json document) document.text
  | list {items : List Value} {texts : List String} (each : List.Forall₂ Spells items texts) :
    Spells (.list items) (",".intercalate texts)

theorem isDecimal_iff {c : Char} : IsDecimal c ↔ c.isDigit := by
  unfold IsDecimal
  simp only [Char.isDigit, Char.le_def, ge_iff_le, Bool.and_eq_true, decide_eq_true_eq]

theorem IsDecimal.toNat_sub_lt {c : Char} (decimal : IsDecimal c) : c.toNat - '0'.toNat < 10 := by
  have upper : c.toNat ≤ '9'.toNat := UInt32.le_iff_toNat_le.1 decimal.2
  have nine : '9'.toNat = '0'.toNat + 9 := rfl
  omega

theorem IsDecimal.digitChar {c : Char} (decimal : IsDecimal c) :
    Nat.digitChar (c.toNat - '0'.toNat) = c := by
  have lower : '0'.toNat ≤ c.toNat := UInt32.le_iff_toNat_le.1 decimal.1
  have zero : '0'.toNat = 48 := rfl
  apply Char.toNat_inj.1
  rw [Nat.toNat_digitChar_of_lt_ten decimal.toNat_sub_lt]
  omega

/-- Digits behind a number that is not zero are the digits of a larger one. -/
theorem toDigits_append {start : ℕ} (positive : 0 < start) {digits : List Char}
    (decimal : ∀ c ∈ digits, IsDecimal c) :
    Nat.toDigits 10 start ++ digits = Nat.toDigits 10 (Nat.ofDigitChars 10 digits start) := by
  induction digits generalizing start with
  | nil => simp
  | cons c rest ih =>
    obtain ⟨first, later⟩ := List.forall_mem_cons.1 decimal
    have one : Nat.toDigits 10 (c.toNat - '0'.toNat) = [c] := by
      rw [Nat.toDigits_of_lt_base first.toNat_sub_lt, first.digitChar]
    have longer : Nat.toDigits 10 start ++ [c] =
        Nat.toDigits 10 (10 * start + (c.toNat - '0'.toNat)) := by
      rw [← Nat.toDigits_append_toDigits (by decide) positive first.toNat_sub_lt, one]
    rw [Nat.ofDigitChars_cons, ← ih (by omega) later, ← longer, List.append_assoc]
    rfl

theorem head_toDigits_ne {number : ℕ} (positive : 0 < number) :
    (Nat.toDigits 10 number).head? ≠ some '0' := by
  induction number using Nat.strong_induction_on with
  | h number ih =>
    rw [Nat.toDigits_eq_if (by decide)]
    split
    next small =>
      intro zero
      have digit := Nat.toNat_digitChar_of_lt_ten small
      rw [Option.some.inj zero] at digit
      have code : '0'.toNat = 48 := rfl
      omega
    next large =>
      have less := ih (number / 10) (by omega) (by omega)
      rw [List.head?_append_of_ne_nil _ Nat.toDigits_ne_nil]
      exact less

theorem isNumeral_iff {digits : List Char} {number : ℕ} :
    IsNumeral digits number ↔ digits = Nat.toDigits 10 number := by
  constructor
  · rintro ⟨present, decimal, short, rfl⟩
    cases digits with
    | nil => contradiction
    | cons c rest =>
      obtain ⟨first, later⟩ := List.forall_mem_cons.1 decimal
      by_cases zero : c = '0'
      · rw [zero] at short ⊢
        rw [short rfl]
        decide
      · have positive : 0 < c.toNat - '0'.toNat := by
          have lower : '0'.toNat ≤ c.toNat := UInt32.le_iff_toNat_le.1 first.1
          have other : c.toNat ≠ '0'.toNat := fun same => zero (Char.toNat_inj.1 same)
          omega
        rw [Nat.ofDigitChars_cons, Nat.mul_zero, Nat.zero_add, ← toDigits_append positive later,
          Nat.toDigits_of_lt_base first.toNat_sub_lt, first.digitChar]
        rfl
  · rintro rfl
    constructor
    case present => exact Nat.toDigits_ne_nil
    case decimal =>
      intro c member
      exact isDecimal_iff.2 (Nat.isDigit_of_mem_toDigits (by decide) (by decide) member)
    case short =>
      intro zero
      rcases number.eq_zero_or_pos with rfl | positive
      · decide
      · exact absurd zero (head_toDigits_ne positive)
    case worth => exact Nat.ofDigitChars_ten_toDigits

theorem isNumeral_toList_iff {text : String} {number : ℕ} :
    IsNumeral text.toList number ↔ text = toString number := by
  rw [isNumeral_iff, Nat.toString_eq_repr, ← Nat.toList_repr, String.toList_inj]

namespace Value

theorem spells_int_iff {number : Int64} {text : String} :
    Spells (.int number) text ↔ text = toString number.toInt := by
  constructor
  · intro spelled
    cases spelled with
    | signed worth numeral =>
      rw [worth, isNumeral_toList_iff.1 numeral]
      rfl
    | @negative _ _ magnitude below worth numeral =>
      obtain ⟨before, same⟩ := Int.eq_negSucc_of_lt_zero below
      have next : magnitude = before + 1 := by omega
      rw [same, isNumeral_toList_iff.1 numeral, next]
      rfl
  · rintro rfl
    cases sign : number.toInt with
    | ofNat magnitude => exact .signed sign (isNumeral_toList_iff.2 rfl)
    | negSucc before =>
      have below : number.toInt < 0 := by
        rw [sign]
        exact Int.negSucc_lt_zero before
      have worth : number.toInt = -(before + 1 : ℕ) := by omega
      exact .negative below worth (isNumeral_toList_iff.2 rfl)

mutual

/-- A value has one spelling. -/
theorem spells_iff (value : Value) {text : String} : value.Spells text ↔ text = value.toText := by
  cases value with
  | int number => exact spells_int_iff
  | uint number =>
    rw [toText, ← isNumeral_toList_iff]
    constructor
    · intro spelled
      cases spelled with
      | unsigned numeral => exact numeral
    · exact .unsigned
  | list items =>
    rw [toText]
    constructor
    · intro spelled
      cases spelled with
      | list each => rw [(forall₂_spells_iff items).1 each]
    · rintro rfl
      exact .list ((forall₂_spells_iff items).2 rfl)
  | bool truth =>
    constructor
    · rintro (_ | _ | _) <;> rfl
    · rintro rfl
      cases truth with
      | false => exact .no
      | true => exact .yes
  | null | float number | text words | json document =>
    constructor
    · rintro ⟨⟩
      rfl
    · rintro rfl
      constructor

theorem forall₂_spells_iff (items : List Value) {texts : List String} :
    List.Forall₂ Spells items texts ↔ texts = itemTexts items := by
  cases items with
  | nil => rw [List.forall₂_nil_left_iff, itemTexts]
  | cons item rest =>
    cases texts with
    | nil => simp [itemTexts]
    | cons text texts =>
      rw [List.forall₂_cons, spells_iff item, forall₂_spells_iff rest, itemTexts, List.cons.injEq]

end

end Value

end DataAccess
