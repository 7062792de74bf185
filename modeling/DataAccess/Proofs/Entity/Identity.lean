import DataAccess.Entity.Identity

/-! Identities on their way from the backend and back. An identity that has been read goes to the
backend as what it was read from, whichever of the two words carried it. -/
namespace DataAccess.IdType

theorem integer?_toIdValue {type : IdType} {n : Int} (holds : type.holds n) (number : type ≠ .text) :
    (type.toIdValue (type.ofInt n)).integer? = some n := by
  obtain ⟨low, high⟩ := of_decide_eq_true holds
  cases type with
  | text => contradiction
  | i32 =>
    change -0x80000000 ≤ n at low
    change n < 0x80000000 at high
    have narrow : (Int32.ofInt n).toInt = n := Int32.toInt_ofInt_of_le low high
    have wide : (Int64.ofInt n).toInt = n := Int64.toInt_ofInt_of_le (by omega) (by omega)
    simp only [toIdValue, ofInt, IdValue.integer?, narrow, wide]
  | i64 =>
    have wide : (Int64.ofInt n).toInt = n := Int64.toInt_ofInt_of_le low high
    exact congrArg some wide
  | u32 =>
    change 0 ≤ n at low
    change n < 0x100000000 at high
    have narrow : (UInt32.ofNat n.toNat).toNat = n.toNat :=
      UInt32.toNat_ofNat_of_lt' (by show _ < 2 ^ 32; omega)
    have wide : (UInt64.ofNat n.toNat).toNat = n.toNat :=
      UInt64.toNat_ofNat_of_lt' (by show _ < 2 ^ 64; omega)
    simp only [toIdValue, ofInt, IdValue.integer?, narrow, wide, Int.toNat_of_nonneg low]
  | u64 =>
    change 0 ≤ n at low
    change n < 0x10000000000000000 at high
    have wide : (UInt64.ofNat n.toNat).toNat = n.toNat :=
      UInt64.toNat_ofNat_of_lt' (by show _ < 2 ^ 64; omega)
    simp only [toIdValue, ofInt, IdValue.integer?, wide, Int.toNat_of_nonneg low]

/-- A type of integers holds some of them, and an identity is read off the integer that it is. -/
theorem ofIdValue?_of_number {type : IdType} (number : type ≠ .text) (carried : IdValue) :
    type.ofIdValue? carried = carried.integer?.bind fun n =>
      if type.holds n then some (type.ofInt n) else none := by
  cases type with
  | text => contradiction
  | _ =>
    simp only [ofIdValue?]
    cases carried.integer? <;> rfl

/-- An identity denotes the text or the integer that it was read from. -/
theorem denotes_of_ofIdValue? {type : IdType} {carried : IdValue} {id : type.Carrier}
    (read : type.ofIdValue? carried = some id) :
    (∃ s, carried = .text s ∧ type.toIdValue id = .text s) ∨
      ∃ n, carried.integer? = some n ∧ (type.toIdValue id).integer? = some n := by
  by_cases number : type = .text
  · subst number
    cases carried with
    | text s =>
      obtain rfl := Option.some.inj read
      exact .inl ⟨_, rfl, rfl⟩
    | _ => contradiction
  · rw [ofIdValue?_of_number number] at read
    obtain ⟨n, integer, read⟩ := Option.bind_eq_some_iff.1 read
    by_cases holds : type.holds n
    · rw [if_pos holds] at read
      obtain rfl := Option.some.inj read
      exact .inr ⟨n, integer, integer?_toIdValue holds number⟩
    · rw [if_neg holds] at read
      contradiction

end DataAccess.IdType
