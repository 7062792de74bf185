import DataAccess.Text.Lowercase

/-! Lowercasing beside signs that are no letters. A percent sign does not change how the text beside
it is lowered, and no sign that sorts before the small letters comes from another character. -/
namespace DataAccess.Text

theorem toList_percent_append (text : String) : ("%" ++ text).toList = '%' :: text.toList :=
  String.toList_append

theorem toList_append_percent (text : String) : (text ++ "%").toList = text.toList ++ ['%'] :=
  String.toList_append

theorem meetsCased_percent (text : List Char) : meetsCased (text ++ ['%']) = meetsCased text := by
  induction text with
  | nil =>
    have kept : isCaseIgnorable '%' = false := by decide +kernel
    have uncased : isCased '%' = false := by decide +kernel
    simp [meetsCased, kept, uncased]
  | cons c rest ih =>
    cases ignored : isCaseIgnorable c with
    | true => simpa [meetsCased, ignored] using ih
    | false => simp [meetsCased, ignored]

theorem lowerFrom_append_percent (before text : List Char) :
    lowerFrom before (text ++ ['%']) = lowerFrom before text ++ ['%'] := by
  induction text generalizing before with
  | nil => rfl
  | cons c rest ih =>
    rw [List.cons_append, lowerFrom, lowerFrom, ih, meetsCased_percent, List.append_assoc]

theorem lowerFrom_behind_percent (before text : List Char) :
    lowerFrom (before ++ ['%']) text = lowerFrom before text := by
  induction text generalizing before with
  | nil => rfl
  | cons c rest ih =>
    have later := ih (c :: before)
    rw [List.cons_append] at later
    rw [lowerFrom, lowerFrom, later, meetsCased_percent]

theorem lowercase_append_percent (text : String) :
    lowercase (text ++ "%") = lowercase text ++ "%" := by
  refine String.toList_injective ?_
  rw [lowercase, lowercase, toList_append_percent, toList_append_percent, lowerFrom_append_percent,
    String.toList_ofList, String.toList_ofList]

theorem lowercase_percent_append (text : String) :
    lowercase ("%" ++ text) = "%" ++ lowercase text := by
  refine String.toList_injective ?_
  have first : lowerFrom [] ('%' :: text.toList) = '%' :: lowerFrom ([] ++ ['%']) text.toList := rfl
  rw [lowercase, lowercase, toList_percent_append, toList_percent_append, first,
    lowerFrom_behind_percent, String.toList_ofList, String.toList_ofList]

/-- A percent sign is no letter, so it does not change how the text beside it is lowered. -/
theorem lowercase_percents (text : String) :
    lowercase ("%" ++ text ++ "%") = "%" ++ lowercase text ++ "%" := by
  rw [lowercase_append_percent, lowercase_percent_append]

/-- The characters of a run are lowered to characters, and these do not sort before the small
letters. -/
theorem images_of_lowercaseRuns : ∀ run ∈ lowercaseRuns, 0x61 ≤ run.first + run.offset ∧
    (run.last + run.offset < 0xD800 ∨
      0xDFFF < run.first + run.offset ∧ run.last + run.offset < 0x110000) := by
  decide +kernel

theorem toNat_ofNat {n : Nat} (valid : n.isValidChar) : (Char.ofNat n).toNat = n := by
  unfold Char.ofNat
  rw [dif_pos valid]
  rfl

/-- A character that sorts before the small letters and is no capital one, such as a digit or a
punctuation mark. -/
def IsSign (c : Char) : Prop := c.toNat < 0x61 ∧ c.isUpper = false

instance : DecidablePred IsSign := fun _ => inferInstanceAs (Decidable (_ ∧ _))

section Sign

variable {c : Char} (sign : IsSign c)
include sign

theorem toLower_eq_sign {d : Char} : d.toLower = c ↔ d = c := by
  unfold Char.toLower
  split
  · next capital =>
    constructor
    · rintro rfl
      have first : 0x41 ≤ d.val.toNat := UInt32.le_iff_toNat_le.1 capital.1
      have last : d.val.toNat ≤ 0x5A := UInt32.le_iff_toNat_le.1 capital.2
      have below : (d.val + ('a'.val - 'A'.val)).toNat < 0x61 := sign.1
      have apart : ('a'.val - 'A'.val).toNat = 32 := rfl
      rw [UInt32.toNat_add, apart] at below
      omega
    · rintro rfl
      have upper : d.isUpper = true := decide_eq_true capital
      rw [sign.2] at upper
      contradiction
  · exact Iff.rfl

theorem lowerChar_eq_sign {d : Char} : lowerChar d = c ↔ d = c := by
  unfold lowerChar
  split
  · exact toLower_eq_sign sign
  · next large =>
    have other : d ≠ c := by
      rintro rfl
      exact large (Nat.lt_trans sign.1 (by decide))
    refine iff_of_false ?_ other
    dsimp only
    split
    · next run found =>
      obtain ⟨letter, image⟩ := images_of_lowercaseRuns run (List.mem_of_find?_eq_some found)
      have inside := List.find?_some found
      simp only [Bool.and_eq_true, decide_eq_true_eq] at inside
      have valid : (d.toNat + run.offset).toNat.isValidChar := by
        unfold Nat.isValidChar
        omega
      intro same
      have below := sign.1
      rw [← same, toNat_ofNat valid] at below
      omega
    · exact other

theorem mem_lowerFrom_of_sign {before text : List Char} : c ∈ lowerFrom before text ↔ c ∈ text := by
  induction text generalizing before with
  | nil => exact Iff.rfl
  | cons d rest ih =>
    have ne_sign {letter : Char} (letters : ¬IsSign letter) : c ≠ letter := by
      rintro rfl
      exact letters sign
    rw [lowerFrom, List.mem_append, ih, List.mem_cons]
    refine or_congr_left ?_
    split
    · next sigma =>
      rw [List.mem_singleton, sigma]
      refine iff_of_false ?_ (ne_sign (by decide))
      split <;> exact ne_sign (by decide)
    · split
      · next dotted =>
        simp only [dotted, List.mem_cons, List.not_mem_nil, or_false]
        exact iff_of_false (not_or.2 ⟨ne_sign (by decide), ne_sign (by decide)⟩)
          (ne_sign (by decide))
      · rw [List.mem_singleton, eq_comm, lowerChar_eq_sign sign, eq_comm]

theorem mem_lowercase_of_sign {text : String} :
    c ∈ (lowercase text).toList ↔ c ∈ text.toList := by
  rw [lowercase, String.toList_ofList]
  exact mem_lowerFrom_of_sign sign

end Sign

end DataAccess.Text
