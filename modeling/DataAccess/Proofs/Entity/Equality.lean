import DataAccess.Value
import Mathlib.Data.List.Induction

/-! Equality of values compares numbers as numbers: a NaN is not the same as itself. It is still
transitive, on which the removal of duplicates rests, and reflexive where every number is finite, as
it is in JSON. -/
namespace DataAccess

theorem Binary64.same_trans {x y z : Binary64} (left : x.same y) (right : y.same z) :
    x.same z := by
  simp only [same, Bool.and_eq_true, Bool.not_eq_true', Bool.or_eq_true, beq_iff_eq] at left right ⊢
  obtain ⟨⟨number, _⟩, equal | ⟨zero, _⟩⟩ := left
  · rwa [equal]
  · obtain ⟨⟨_, number'⟩, equal' | ⟨_, zero'⟩⟩ := right
    · subst equal'
      exact ⟨⟨number, number'⟩, .inr ⟨zero, by assumption⟩⟩
    · exact ⟨⟨number, number'⟩, .inr ⟨zero, zero'⟩⟩

theorem Binary64.isFinite_of_same {x y : Binary64} (finite : x.isFinite) (same : x.same y) :
    y.isFinite := by
  simp only [Binary64.same, Bool.and_eq_true, Bool.or_eq_true, beq_iff_eq, isZero] at same
  obtain ⟨_, rfl | ⟨_, finite', _⟩⟩ := same
  · exact finite
  · exact finite'

/-- A finite number is not a NaN, so it is the same as itself. -/
theorem Binary64.same_self {x : Binary64} (finite : x.isFinite) : x.same x := by
  have number : x.isNaN = false := by
    have exponent : x.biasedExponent ≠ 2047 := bne_iff_ne.1 finite
    simp [isNaN, exponent]
  simp [Binary64.same, number]

theorem JsonNumber.same_trans {m n k : JsonNumber} (left : m.same n) (right : n.same k) :
    m.same k := by
  cases m <;> cases n <;> cases k <;> simp only [same, Bool.false_eq_true] at left right ⊢
  case integer.integer.integer => simp_all
  case float.float.float => exact Binary64.same_trans left right

/-- JSON has finite numbers only. -/
theorem JsonNumber.same_self (number : JsonNumber) : number.same number := by
  cases number with
  | integer n => exact beq_self_eq_true n
  | float x finite => exact Binary64.same_self finite

namespace Json

mutual

theorem same_trans {x y z : Json} (left : x.same y) (right : y.same z) : x.same z := by
  cases x <;> cases y <;> cases z <;>
    simp only [same, beq_iff_eq, Bool.false_eq_true] at left right ⊢
  case bool.bool.bool | string.string.string => exact left.trans right
  case number.number.number => exact JsonNumber.same_trans left right
  case array.array.array => exact sameItems_trans left right
  case object.object.object => exact sameMembers_trans left right

theorem sameItems_trans {xs ys zs : List Json} (left : sameItems xs ys) (right : sameItems ys zs) :
    sameItems xs zs := by
  cases xs <;> cases ys <;> cases zs <;>
    simp only [sameItems, Bool.and_eq_true, Bool.false_eq_true] at left right ⊢
  exact ⟨same_trans left.1 right.1, sameItems_trans left.2 right.2⟩

theorem sameMembers_trans {xs ys zs : List (String × Json)} (left : sameMembers xs ys)
    (right : sameMembers ys zs) : sameMembers xs zs := by
  match xs, ys, zs with
  | [], [], [] => rfl
  | (_, x) :: xs, (_, y) :: ys, (_, z) :: zs =>
    simp only [sameMembers, Bool.and_eq_true, beq_iff_eq] at left right ⊢
    exact ⟨⟨left.1.1.trans right.1.1, same_trans left.1.2 right.1.2⟩,
      sameMembers_trans left.2 right.2⟩

end

mutual

theorem same_self (json : Json) : json.same json := by
  match json with
  | null => rfl
  | bool b => exact beq_self_eq_true b
  | number n => exact n.same_self
  | string s => exact beq_self_eq_true s
  | array items => exact sameItems_self items
  | object members => exact sameMembers_self members

theorem sameItems_self (items : List Json) : sameItems items items := by
  match items with
  | [] => rfl
  | item :: rest => exact Bool.and_eq_true_iff.2 ⟨same_self item, sameItems_self rest⟩

theorem sameMembers_self (members : List (String × Json)) : sameMembers members members := by
  match members with
  | [] => rfl
  | (key, value) :: rest =>
    simp only [sameMembers, beq_self_eq_true, Bool.true_and, Bool.and_eq_true]
    exact ⟨same_self value, sameMembers_self rest⟩

end

end Json

namespace Value

mutual

theorem same_trans {x y z : Value} (left : x.same y) (right : y.same z) : x.same z := by
  cases x <;> cases y <;> cases z <;>
    simp only [same, beq_iff_eq, Bool.false_eq_true] at left right ⊢
  case bool.bool.bool | int.int.int | uint.uint.uint | text.text.text => exact left.trans right
  case float.float.float => exact Binary64.same_trans left right
  case json.json.json => exact Json.same_trans left right
  case list.list.list => exact sameItems_trans left right

theorem sameItems_trans {xs ys zs : List Value} (left : sameItems xs ys) (right : sameItems ys zs) :
    sameItems xs zs := by
  cases xs <;> cases ys <;> cases zs <;>
    simp only [sameItems, Bool.and_eq_true, Bool.false_eq_true] at left right ⊢
  exact ⟨same_trans left.1 right.1, sameItems_trans left.2 right.2⟩

end

theorem sameItems_self {items : List Value} (each : ∀ item ∈ items, item.same item) :
    sameItems items items := by
  induction items with
  | nil => rfl
  | cons item rest ih =>
    obtain ⟨here, later⟩ := List.forall_mem_cons.1 each
    exact Bool.and_eq_true_iff.2 ⟨here, ih later⟩

/-- What holds of everything that is the same as an item holds of the items of every list that is
the same. -/
theorem forall_of_sameItems {property : Value → Prop} {items others : List Value}
    (each : ∀ item ∈ items, ∀ {other : Value}, item.same other → property other)
    (same : sameItems items others) : ∀ other ∈ others, property other := by
  induction items generalizing others with
  | nil =>
    cases others with
    | nil => nofun
    | cons => contradiction
  | cons item rest ih =>
    cases others with
    | nil => contradiction
    | cons other others =>
      obtain ⟨here, later⟩ := List.forall_mem_cons.1 each
      obtain ⟨first, remaining⟩ := Bool.and_eq_true_iff.1 same
      exact List.forall_mem_cons.2 ⟨here first, ih later remaining⟩

/-- The values that no earlier value is the same as, in order. -/
def firstOccurrences (values : List Value) : List Value :=
  (values.zipIdx.filter fun entry => !(values.take entry.2).any (·.same entry.1)).map Prod.fst

theorem firstOccurrences_append_singleton (values : List Value) (value : Value) :
    firstOccurrences (values ++ [value]) =
      if values.any (·.same value) then firstOccurrences values
      else firstOccurrences values ++ [value] := by
  have earlier : (values.zipIdx.filter fun entry =>
      !((values ++ [value]).take entry.2).any (·.same entry.1)) =
        values.zipIdx.filter fun entry => !(values.take entry.2).any (·.same entry.1) := by
    apply List.filter_congr
    intro entry member
    have bound : entry.2 < values.length := (List.mem_zipIdx' member).1
    rw [List.take_append_of_le_length (Nat.le_of_lt bound)]
  unfold firstOccurrences
  rw [List.zipIdx_append, List.filter_append, List.map_append, earlier]
  by_cases repeated : values.any (·.same value)
  · simp [repeated]
  · simp [repeated]

/-- A value has occurred if and only if it is the same as one that was kept. -/
theorem any_same_firstOccurrences (values : List Value) (value : Value) :
    (firstOccurrences values).any (·.same value) = values.any (·.same value) := by
  induction values using List.reverseRecOn generalizing value with
  | nil => rfl
  | append_singleton values last ih =>
    rw [firstOccurrences_append_singleton]
    by_cases repeated : values.any (·.same last)
    · have implied (same : last.same value) : values.any (·.same value) := by
        obtain ⟨kept, member, alike⟩ := List.any_eq_true.1 repeated
        exact List.any_eq_true.2 ⟨kept, member, same_trans alike same⟩
      rw [if_pos repeated, ih, List.any_append, List.any_cons, List.any_nil, Bool.or_false]
      by_cases same : last.same value
      · rw [implied same, same, Bool.or_self]
      · rw [Bool.not_eq_true] at same
        rw [same, Bool.or_false]
    · rw [if_neg repeated, List.any_append, ih, List.any_append]

/-- Values that are kept are pairwise different. -/
theorem pairwise_firstOccurrences (values : List Value) :
    (firstOccurrences values).Pairwise fun first second => first.same second = false := by
  induction values using List.reverseRecOn with
  | nil => exact .nil
  | append_singleton values last ih =>
    rw [firstOccurrences_append_singleton]
    split
    · exact ih
    · next fresh =>
      rw [← any_same_firstOccurrences, List.any_eq_true] at fresh
      refine List.pairwise_append.2 ⟨ih, List.pairwise_singleton _ _, ?_⟩
      intro kept member other final
      obtain rfl := List.mem_singleton.1 final
      exact Bool.eq_false_iff.2 fun same => fresh ⟨kept, member, same⟩

theorem firstOccurrences_eq_nil_iff {values : List Value} :
    firstOccurrences values = [] ↔ values = [] := by
  constructor
  · intro none
    cases values with
    | nil => rfl
    | cons value rest => simp [firstOccurrences, List.zipIdx_cons] at none
  · rintro rfl
    rfl

theorem mem_of_mem_firstOccurrences {values : List Value} {value : Value}
    (kept : value ∈ firstOccurrences values) : value ∈ values := by
  obtain ⟨entry, member, rfl⟩ := List.mem_map.1 kept
  exact (List.mem_zipIdx' (List.mem_filter.1 member).1).2 ▸ List.getElem_mem _

end Value

end DataAccess
