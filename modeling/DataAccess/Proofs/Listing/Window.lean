import DataAccess.Listing.Page
import Mathlib.Logic.ExistsUnique

/-! The windows of a paged listing. Words are read as the natural numbers they stand for, so a step
that left the range of words would show. In these numbers the windows of one page size lie end to end
up to the largest offset, where the windows of all further pages begin. -/
namespace DataAccess

namespace Page

theorem toNat_min (a b : UInt64) : (min a b).toNat = min a.toNat b.toNat := by
  have word : min a b = if a ≤ b then a else b := rfl
  rw [word]
  split
  all_goals
    rw [UInt64.le_iff_toNat_le] at *
    omega

theorem toNat_max (a b : UInt64) : (max a b).toNat = max a.toNat b.toNat := by
  have word : max a b = if a ≤ b then b else a := rfl
  rw [word]
  split
  all_goals
    rw [UInt64.le_iff_toNat_le] at *
    omega

theorem toNat_saturatingMul (a b : UInt64) :
    (saturatingMul a b).toNat = min (a.toNat * b.toNat) (0xffffffffffffffff) := by
  have bound : powerOfTwo 64 = 0x10000000000000000 := by decide
  unfold saturatingMul
  rw [bound]
  split
  · next fits =>
    rw [UInt64.toNat_mul, Nat.mod_eq_of_lt fits]
    omega
  · next exceeds =>
    have largest : (0xffffffffffffffff : UInt64).toNat = 0xffffffffffffffff := rfl
    rw [largest]
    omega

theorem toNat_positiveOr (fallback : UInt64) (n : Int64) :
    (positiveOr fallback n).toNat = if n.toInt ≤ 0 then fallback.toNat else n.toInt.toNat := by
  have zero : n ≤ 0 ↔ n.toInt ≤ 0 := Int64.le_iff_toInt_le
  unfold positiveOr
  by_cases given : n.toInt ≤ 0
  · rw [if_pos given, if_pos (zero.2 given)]
  · have positive : 0 ≤ n := Int64.le_iff_toInt_le.2 (by simp; omega)
    rw [if_neg given, if_neg (mt zero.1 given), Int64.toNat_toUInt64_of_le positive,
      Int64.toNat_toInt]

theorem toNat_offset (page : Page) :
    page.offset.toNat = min ((page.number.toNat - 1) * page.size.toNat) maxOffset.toNat := by
  have before : (if page.number = 0 then 0 else page.number - 1).toNat = page.number.toNat - 1 := by
    split
    · next first => simp [first]
    · next later =>
      have one : 1 ≤ page.number := by
        rw [UInt64.le_iff_toNat_le]
        have nonzero : page.number.toNat ≠ 0 := fun none => later (UInt64.toNat_inj.1 none)
        simp
        omega
      rw [UInt64.toNat_sub_of_le _ _ one]
      rfl
  have largest : maxOffset.toNat ≤ 0xffffffffffffffff := by decide
  unfold offset
  rw [toNat_min, toNat_saturatingMul, before]
  omega

/-- Whether the window of a page takes in the row of an index counted from zero. -/
def Holds (page : Page) (index : Nat) : Prop :=
  page.offset.toNat ≤ index ∧ index < page.offset.toNat + page.limit.toNat

/-- The page after a page. -/
def next (page : Page) : Page := ⟨page.number + 1, page.size⟩

/-- A page that is neither before the first nor empty. -/
structure IsProper (page : Page) : Prop where
  number : 1 ≤ page.number.toNat
  size : 1 ≤ page.size.toNat

theorem IsProper.holds_iff {page : Page} (proper : page.IsProper) {index : Nat}
    (reachable : index < maxOffset.toNat) :
    page.Holds index ↔ page.number.toNat = index / page.size.toNat + 1 := by
  obtain ⟨one, rows⟩ := proper
  obtain ⟨before, number⟩ := Nat.exists_eq_add_of_le' one
  -- a window that begins at the largest offset holds no row below it
  have begins : page.Holds index ↔
      before * page.size.toNat ≤ index ∧ index < before * page.size.toNat + page.size.toNat := by
    unfold Holds limit
    rw [toNat_offset, number, Nat.add_sub_cancel]
    omega
  rw [begins, number, Nat.add_right_cancel_iff, ← Nat.succ_mul]
  constructor
  · intro ⟨low, high⟩
    apply Nat.le_antisymm
    · exact (Nat.le_div_iff_mul_le rows).2 low
    · exact Nat.le_of_lt_succ ((Nat.div_lt_iff_lt_mul rows).2 high)
  · intro same
    constructor
    · rw [same]
      exact Nat.div_mul_le_self index _
    · rw [← Nat.div_lt_iff_lt_mul rows, same]
      exact Nat.lt_succ_self _

theorem offset_le {page later : Page} (size : page.size = later.size)
    (number : page.number.toNat ≤ later.number.toNat) : page.offset ≤ later.offset := by
  rw [UInt64.le_iff_toNat_le, toNat_offset, toNat_offset, size]
  have rows : (page.number.toNat - 1) * later.size.toNat ≤
      (later.number.toNat - 1) * later.size.toNat := by
    apply Nat.mul_le_mul_right
    omega
  omega

theorem IsProper.offset_next {page : Page} (proper : page.IsProper)
    (followed : page.number.toNat + 1 < 0x10000000000000000)
    (within : page.offset.toNat + page.limit.toNat ≤ maxOffset.toNat) :
    page.next.offset.toNat = page.offset.toNat + page.limit.toNat := by
  obtain ⟨one, rows⟩ := proper
  have number : page.next.number.toNat = page.number.toNat + 1 := by
    unfold next
    rw [UInt64.toNat_add]
    exact Nat.mod_eq_of_lt followed
  obtain ⟨before, earlier⟩ := Nat.exists_eq_add_of_le' one
  have product : (before + 1) * page.size.toNat =
      before * page.size.toNat + page.size.toNat := Nat.succ_mul _ _
  have size : page.next.size = page.size := rfl
  unfold limit at within ⊢
  rw [toNat_offset, earlier, Nat.add_sub_cancel] at within
  rw [toNat_offset, toNat_offset, number, size, earlier, Nat.add_sub_cancel, Nat.add_sub_cancel,
    product]
  omega

/-- The rows on a page, for a requested size: that size, or the default unless it is positive, at most
the maximum and at least one. -/
def rowsFor (settings : Settings) (perPage : Int64) : Nat :=
  let requested :=
    if perPage.toInt ≤ 0 then settings.defaultPerPage.toNat else perPage.toInt.toNat
  max (settings.maxPerPage.elim requested fun maximum => min requested maximum.toNat) 1

section Normalized

variable (settings : Settings) (perPage page : Int64)

theorem toNat_size_normalize :
    (normalize page perPage settings).size.toNat = rowsFor settings perPage := by
  unfold normalize rowsFor
  rw [toNat_max]
  cases settings.maxPerPage with
  | none => simp [toNat_positiveOr]
  | some maximum => simp [toNat_min, toNat_positiveOr]

theorem toNat_number_normalize :
    (normalize page perPage settings).number.toNat = (max page.toInt 1).toNat := by
  have one : (1 : UInt64).toNat = 1 := rfl
  unfold normalize
  rw [toNat_positiveOr, one]
  split <;> omega

theorem isProper_normalize : (normalize page perPage settings).IsProper := by
  constructor
  · rw [toNat_number_normalize]
    omega
  · rw [toNat_size_normalize]
    exact Nat.le_max_right _ 1

theorem normalize_of_nonpositive {page : Int64} (before : page ≤ 0) :
    normalize page perPage settings = normalize 1 perPage settings := by
  unfold normalize positiveOr
  rw [if_pos before]
  rfl

theorem normalize_add_one {page : Int64} (first : 0 < page) (followed : page < Int64.maxValue) :
    normalize (page + 1) perPage settings = (normalize page perPage settings).next := by
  rw [Int64.lt_iff_toInt_lt] at first followed
  have largest : Int64.maxValue.toInt = 0x7fffffffffffffff := rfl
  have next : (page + 1).toInt = page.toInt + 1 := by
    rw [Int64.toInt_add]
    exact Int.bmod_eq_of_le (by simp at first ⊢; omega) (by simp; omega)
  have number : (normalize (page + 1) perPage settings).number =
      (normalize page perPage settings).number + 1 := by
    rw [← UInt64.toNat_inj, UInt64.toNat_add, toNat_number_normalize, toNat_number_normalize, next]
    simp at first ⊢
    omega
  unfold Page.next
  rw [← number]
  rfl

end Normalized

/-- The windows of a requested size tile the rows. -/
structure Tiling (settings : Settings) (perPage : Int64) (size : Nat) : Prop where
  positive : 1 ≤ size
  limit : ∀ page, (normalize page perPage settings).limit.toNat = size
  converted : ∀ page : Int64, (normalize page perPage settings).number.toNat =
    (max page.toInt 1).toNat
  /-- no step leaves the range of words: the offset is the exact product, up to the largest one -/
  offset : ∀ page : Int64, (normalize page perPage settings).offset.toNat =
    min (((max page.toInt 1).toNat - 1) * size) maxOffset.toNat
  shown : ∀ index < maxOffset.toNat, ∃! page : Int64,
    0 < page ∧ (normalize page perPage settings).Holds index
  number : ∀ index < maxOffset.toNat, ∀ page : Int64, 0 < page →
    ((normalize page perPage settings).Holds index ↔ page.toInt = (index / size + 1 : Nat))
  ascending : ∀ page later : Int64, page ≤ later →
    (normalize page perPage settings).offset ≤ (normalize later perPage settings).offset
  adjacent : ∀ page : Int64, 0 < page → page < Int64.maxValue →
    (normalize page perPage settings).offset.toNat +
      (normalize page perPage settings).limit.toNat ≤ maxOffset.toNat →
    (normalize (page + 1) perPage settings).offset.toNat =
      (normalize page perPage settings).offset.toNat +
        (normalize page perPage settings).limit.toNat
  first : ∀ page : Int64, page ≤ 0 →
    normalize page perPage settings = normalize 1 perPage settings

/-- The windows of a page size tile the rows below the largest offset: each is on the one page that
its index divided by the size tells, whatever the settings are. -/
theorem pages_tile_rows (settings : Settings) (perPage : Int64) :
    Tiling settings perPage (rowsFor settings perPage) := by
  have positive : 1 ≤ rowsFor settings perPage := Nat.le_max_right _ 1
  have limit (page : Int64) := toNat_size_normalize settings perPage page
  have proper (page : Int64) := isProper_normalize settings perPage page
  have number : ∀ index < maxOffset.toNat, ∀ page : Int64, 0 < page →
      ((normalize page perPage settings).Holds index ↔
        page.toInt = (index / rowsFor settings perPage + 1 : Nat)) := by
    intro index reachable page first
    rw [Int64.lt_iff_toInt_lt] at first
    rw [(proper page).holds_iff reachable, limit, toNat_number_normalize]
    simp at first ⊢
    omega
  constructor
  case positive => exact positive
  case limit => exact limit
  case converted => exact toNat_number_normalize settings perPage
  case offset =>
    intro page
    rw [toNat_offset, limit, toNat_number_normalize]
  case shown =>
    intro index reachable
    have largest : maxOffset.toNat = 0x7fffffffffffffff := rfl
    have small : index / rowsFor settings perPage ≤ index := Nat.div_le_self _ _
    have carried : (Int64.ofNat (index / rowsFor settings perPage + 1)).toInt =
        (index / rowsFor settings perPage + 1 : Nat) := Int64.toInt_ofNat_of_lt (by omega)
    have first : 0 < Int64.ofNat (index / rowsFor settings perPage + 1) := by
      rw [Int64.lt_iff_toInt_lt, carried]
      exact Int.natCast_pos.2 (Nat.succ_pos _)
    refine ⟨Int64.ofNat (index / rowsFor settings perPage + 1), ?_, ?_⟩
    · exact ⟨first, (number index reachable _ first).2 carried⟩
    · intro page ⟨later, holds⟩
      apply Int64.toInt_inj.1
      rw [carried, (number index reachable page later).1 holds]
  case number => exact number
  case ascending =>
    intro page later order
    rw [Int64.le_iff_toInt_le] at order
    apply offset_le
    · rw [← UInt64.toNat_inj, limit, limit]
    · rw [toNat_number_normalize, toNat_number_normalize]
      omega
  case adjacent =>
    intro page first followed within
    rw [normalize_add_one settings perPage first followed]
    apply (proper page).offset_next _ within
    rw [toNat_number_normalize]
    have bound := page.toInt_lt
    omega
  case first => exact fun page before => normalize_of_nonpositive settings perPage before

/-- With the largest size only the first page begins below the largest offset. -/
example : (normalize 2 0 ⟨0xffffffffffffffff, none, "id", "en", .mysql⟩).offset = maxOffset := by
  decide +kernel

end Page

end DataAccess
