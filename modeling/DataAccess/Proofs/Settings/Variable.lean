import DataAccess.Proofs.Text.Spelling
import DataAccess.Settings.Variables
import Mathlib.Data.List.TakeWhile

/-! The texts of variables. A size is written in decimal digits and a dialect by its name, in
letters of either case, and what is read from a text is what the text writes. -/
namespace DataAccess

/-- A text writes a page size: a number from one on that fits a word, in decimal digits. A plus
sign may stand in front, and blanks around it. -/
structure WritesSize (text : String) (size : UInt64) : Prop where
  written : ∃ before sign digits after : List Char,
    text.toList = before ++ (sign ++ digits) ++ after ∧
    (∀ c ∈ before, Text.isBlank c) ∧ (∀ c ∈ after, Text.isBlank c) ∧
    (sign = [] ∨ sign = ['+']) ∧ digits ≠ [] ∧ (∀ c ∈ digits, IsDecimal c) ∧
    Nat.ofDigitChars 10 digits 0 = size.toNat
  positive : size ≠ 0

/-- The name of each dialect. -/
def Dialect.names : List (String × Dialect) :=
  [("generic", .generic), ("sqlite", .sqlite), ("mysql", .mysql), ("postgres", .postgres)]

/-- A letter is another one, or its capital. -/
def IsCaseOf (c letter : Char) : Prop :=
  c = letter ∨ ('A' ≤ c ∧ c ≤ 'Z' ∧ c.toNat + 32 = letter.toNat)

/-- A text is the name of a dialect, in letters of either case. -/
def NamesDialect (text : String) (dialect : Dialect) : Prop :=
  ∃ name, (name, dialect) ∈ Dialect.names ∧ List.Forall₂ IsCaseOf text.toList name.toList

/-- Only decimal digits are worth less than ten. -/
theorem appendDigit?_ten {value next : ℕ} {c : Char} :
    appendDigit? 10 value c = some next ↔
      IsDecimal c ∧ 10 * value + (c.toNat - '0'.toNat) = next := by
  unfold appendDigit? digitValue?
  by_cases decimal : c.isDigit
  · have below : c.toNat - '0'.toNat < 10 := (isDecimal_iff.2 decimal).toNat_sub_lt
    simp only [if_pos decimal, if_pos below, Option.some_inj, isDecimal_iff.2 decimal, true_and,
      Nat.mul_comm value]
  · have other : ¬IsDecimal c := mt isDecimal_iff.1 decimal
    simp only [if_neg decimal, other, false_and, iff_false]
    -- the letters that are digits beyond decimal ones are worth ten or more
    have beyond (digit : ℕ) : ¬digit + 10 < 10 := Nat.not_lt.2 (Nat.le_add_left 10 digit)
    split
    next digit found =>
      split at found
      · obtain rfl := Option.some.inj found
        rw [if_neg (beyond _)]
        nofun
      · split at found
        · obtain rfl := Option.some.inj found
          rw [if_neg (beyond _)]
          nofun
        · contradiction
    next => nofun

theorem foldlM_appendDigit? {start value : ℕ} {digits : List Char} :
    digits.foldlM (appendDigit? 10) start = some value ↔
      (∀ c ∈ digits, IsDecimal c) ∧ Nat.ofDigitChars 10 digits start = value := by
  induction digits generalizing start with
  | nil => simp
  | cons c rest ih =>
    simp only [List.foldlM_cons, Option.bind_eq_bind, Option.bind_eq_some_iff, appendDigit?_ten, ih,
      List.forall_mem_cons]
    constructor
    · rintro ⟨_, ⟨decimal, rfl⟩, decimals, worth⟩
      exact ⟨⟨decimal, decimals⟩, worth⟩
    · rintro ⟨⟨decimal, decimals⟩, worth⟩
      exact ⟨_, ⟨decimal, rfl⟩, decimals, worth⟩

theorem unsignedOfDigits?_eq_some_iff {digits : List Char} {size : UInt64} :
    unsignedOfDigits? 10 digits = some size ↔
      digits ≠ [] ∧ (∀ c ∈ digits, IsDecimal c) ∧ Nat.ofDigitChars 10 digits 0 = size.toNat := by
  rw [← foldlM_appendDigit?]
  cases digits with
  | nil => exact ⟨nofun, fun writes => absurd rfl writes.1⟩
  | cons c rest =>
    unfold unsignedOfDigits?
    rw [List.isEmpty_cons, if_neg Bool.false_ne_true]
    cases (c :: rest).foldlM (appendDigit? 10) 0 with
    | none => exact ⟨nofun, nofun⟩
    | some value =>
      dsimp only
      split
      next fits =>
        rw [Option.some_inj, Option.some_inj]
        constructor
        · rintro rfl
          exact ⟨List.cons_ne_nil _ _, (UInt64.toNat_ofNat_of_lt' fits).symm⟩
        · rintro ⟨-, rfl⟩
          exact UInt64.ofNat_toNat
      next exceeds =>
        refine ⟨nofun, fun ⟨_, worth⟩ => absurd ?_ exceeds⟩
        rw [Option.some.inj worth]
        exact size.toNat_lt

namespace Text

theorem not_isBlank_of_bounds {c : Char} (lower : 33 ≤ c.toNat) (upper : c.toNat ≤ 132) :
    ¬isBlank c := by
  intro blank
  obtain ⟨range, member, within⟩ := List.any_eq_true.1 blank
  obtain ⟨first, last⟩ := Bool.and_eq_true_iff.1 within
  have first := of_decide_eq_true first
  have last := of_decide_eq_true last
  simp only [blankRanges, List.mem_cons, List.not_mem_nil, or_false] at member
  rcases member with rfl | rfl | rfl | rfl | rfl | rfl | rfl | rfl | rfl | rfl <;>
    dsimp only at first last <;> omega

/-- What is trimmed are blanks around the text. -/
theorem exists_eq_append_trimChars (text : List Char) : ∃ before after,
    text = before ++ trimChars text ++ after ∧ (∀ c ∈ before, isBlank c) ∧ ∀ c ∈ after, isBlank c := by
  have front := List.takeWhile_append_dropWhile (p := isBlank) (l := text)
  have back := congrArg List.reverse
    (List.takeWhile_append_dropWhile (p := isBlank) (l := (text.dropWhile isBlank).reverse))
  rw [List.reverse_append, List.reverse_reverse] at back
  refine ⟨text.takeWhile isBlank, ((text.dropWhile isBlank).reverse.takeWhile isBlank).reverse,
    ?_, fun _ => List.mem_takeWhile_imp, fun _ member => ?_⟩
  · rw [trimChars, List.append_assoc, back, front]
  · exact List.mem_takeWhile_imp (List.mem_reverse.1 member)

theorem dropWhile_isBlank {text : List Char} (solid : ∀ c ∈ text, ¬isBlank c) :
    text.dropWhile isBlank = text :=
  List.dropWhile_eq_self_iff.2 fun _ => solid _ (List.getElem_mem _)

theorem trimChars_eq_nil_iff {text : List Char} : trimChars text = [] ↔ ∀ c ∈ text, isBlank c := by
  constructor
  · intro empty c member
    obtain ⟨before, after, written, first, last⟩ := exists_eq_append_trimChars text
    rw [written, empty, List.append_nil] at member
    exact (List.mem_append.1 member).elim (first c) (last c)
  · intro blank
    rw [trimChars, List.dropWhile_eq_nil_iff.2 blank]
    rfl

/-- Blanks around a text without blanks are trimmed. -/
theorem trimChars_append {before inner after : List Char} (first : ∀ c ∈ before, isBlank c)
    (last : ∀ c ∈ after, isBlank c) (nonempty : inner ≠ []) (solid : ∀ c ∈ inner, ¬isBlank c) :
    trimChars (before ++ inner ++ after) = inner := by
  have front : (before ++ inner ++ after).dropWhile isBlank = inner ++ after := by
    rw [List.append_assoc, List.dropWhile_append_of_pos first, List.dropWhile_append,
      dropWhile_isBlank solid, if_neg (mt List.isEmpty_iff.1 nonempty)]
  have back : (inner ++ after).reverse.dropWhile isBlank = inner.reverse := by
    rw [List.reverse_append,
      List.dropWhile_append_of_pos fun c member => last c (List.mem_reverse.1 member)]
    exact dropWhile_isBlank fun c member => solid c (List.mem_reverse.1 member)
  rw [trimChars, front, back, List.reverse_reverse]

end Text

theorem not_isBlank_of_isDecimal {c : Char} (decimal : IsDecimal c) : ¬Text.isBlank c := by
  have lower : 48 ≤ c.toNat := UInt32.le_iff_toNat_le.1 decimal.1
  have upper : c.toNat ≤ 57 := UInt32.le_iff_toNat_le.1 decimal.2
  exact Text.not_isBlank_of_bounds (by omega) (by omega)

/-- One plus sign in front of a number is dropped. -/
theorem unsigned?_eq_some_iff {text : List Char} {size : UInt64} :
    unsigned? text = some size ↔ ∃ sign digits, text = sign ++ digits ∧
      (sign = [] ∨ sign = ['+']) ∧ digits ≠ [] ∧ (∀ c ∈ digits, IsDecimal c) ∧
      Nat.ofDigitChars 10 digits 0 = size.toNat := by
  unfold unsigned?
  rw [unsignedOfDigits?_eq_some_iff]
  have parts : ∃ sign, text = sign ++ dropPlus text ∧ (sign = [] ∨ sign = ['+']) := by
    unfold dropPlus
    split
    · exact ⟨['+'], rfl, .inr rfl⟩
    · exact ⟨[], rfl, .inl rfl⟩
  constructor
  · intro writes
    obtain ⟨sign, written, signed⟩ := parts
    exact ⟨sign, dropPlus text, written, signed, writes⟩
  · rintro ⟨sign, digits, rfl, rfl | rfl, writes⟩
    · cases digits with
      | nil => exact absurd rfl writes.1
      | cons c rest =>
        have plain : dropPlus ([] ++ c :: rest) = c :: rest := by
          unfold dropPlus
          split
          next same =>
            obtain ⟨rfl, -⟩ := List.cons.inj same
            exact absurd (writes.2.1 '+' (List.mem_cons_self)) (by unfold IsDecimal; decide)
          next => rfl
        rw [plain]
        exact writes
    · exact writes

theorem readSize_eq_ok_iff {name text : String} {size : UInt64} :
    Settings.readSize name text = .ok size ↔ WritesSize text size := by
  unfold Settings.readSize Settings.positive
  constructor
  · intro read
    split at read
    next given found =>
      split at read
      · contradiction
      next nonzero =>
        obtain rfl := Except.ok.inj read
        obtain ⟨before, after, text, first, last⟩ := Text.exists_eq_append_trimChars text.toList
        obtain ⟨sign, digits, written, writes⟩ := unsigned?_eq_some_iff.1 found
        rw [written] at text
        exact ⟨⟨before, sign, digits, after, text, first, last, writes⟩, nonzero⟩
    next => contradiction
  · rintro ⟨⟨before, sign, digits, after, written, first, last, signed, writes⟩, positive⟩
    have solid : ∀ c ∈ sign ++ digits, ¬Text.isBlank c := by
      intro c member
      obtain member | member := List.mem_append.1 member
      · obtain rfl | rfl := signed
        · contradiction
        · obtain rfl := List.mem_singleton.1 member
          decide
      · exact not_isBlank_of_isDecimal (writes.2.1 c member)
    have nonempty : sign ++ digits ≠ [] := fun empty => writes.1 (List.append_eq_nil_iff.1 empty).2
    have found := unsigned?_eq_some_iff.2 ⟨sign, digits, rfl, signed, writes⟩
    rw [written, Text.trimChars_append first last nonempty solid, found]
    exact if_neg positive

theorem toLower_eq_iff {c letter : Char} (small : letter.isUpper = false) :
    c.toLower = letter ↔ IsCaseOf c letter := by
  unfold Char.toLower IsCaseOf
  split
  next capital =>
    have worth : (c.val + ('a'.val - 'A'.val)).toNat = c.toNat + 32 := by
      have last : c.val.toNat ≤ 0x5A := UInt32.le_iff_toNat_le.1 capital.2
      have apart : ('a'.val - 'A'.val).toNat = 32 := rfl
      rw [UInt32.toNat_add, apart]
      exact Nat.mod_eq_of_lt (by omega)
    constructor
    · rintro rfl
      exact .inr ⟨capital.1, capital.2, worth.symm⟩
    · rintro (rfl | ⟨-, -, same⟩)
      · have upper : c.isUpper = true := decide_eq_true capital
        rw [small] at upper
        contradiction
      · exact Char.toNat_inj.1 (worth.trans same)
  next small =>
    refine ⟨.inl, ?_⟩
    rintro (same | ⟨first, last, -⟩)
    · exact same
    · exact absurd ⟨first, last⟩ small

theorem map_toLower_eq_iff {text name : List Char}
    (small : ∀ letter ∈ name, letter.isUpper = false) :
    text.map Char.toLower = name ↔ List.Forall₂ IsCaseOf text name := by
  induction text generalizing name with
  | nil => rw [List.map_nil, List.forall₂_nil_left_iff, eq_comm]
  | cons c rest ih =>
    cases name with
    | nil => exact ⟨nofun, nofun⟩
    | cons letter others =>
      obtain ⟨here, there⟩ := List.forall_mem_cons.1 small
      rw [List.map_cons, List.cons.injEq, List.forall₂_cons, toLower_eq_iff here, ih there]

theorem Dialect.ofName?_eq_some_iff {name : String} {dialect : Dialect} :
    ofName? name = some dialect ↔ (name, dialect) ∈ names := by
  unfold ofName?
  split <;> simp_all [names, eq_comm]

theorem readDialect_eq_ok_iff {name text : String} {dialect : Dialect} :
    Settings.readDialect name text = .ok dialect ↔ NamesDialect text dialect := by
  have lowered : Settings.readDialect name text = .ok dialect ↔
      (String.ofList (text.toList.map Char.toLower), dialect) ∈ Dialect.names := by
    rw [← Dialect.ofName?_eq_some_iff]
    unfold Settings.readDialect
    cases Dialect.ofName? (String.ofList (text.toList.map Char.toLower)) with
    | none => exact ⟨nofun, nofun⟩
    | some found => rw [Except.ok.injEq, Option.some_inj]
  have small : ∀ entry ∈ Dialect.names, ∀ letter ∈ entry.1.toList, letter.isUpper = false := by
    simp [Dialect.names]
  have named {name : String} (known : (name, dialect) ∈ Dialect.names) :
      String.ofList (text.toList.map Char.toLower) = name ↔
        List.Forall₂ IsCaseOf text.toList name.toList := by
    rw [← map_toLower_eq_iff (small _ known), ← String.toList_inj, String.toList_ofList]
  rw [lowered]
  constructor
  · intro known
    exact ⟨_, known, (named known).1 rfl⟩
  · rintro ⟨name, known, cased⟩
    rwa [(named known).2 cased]

end DataAccess
