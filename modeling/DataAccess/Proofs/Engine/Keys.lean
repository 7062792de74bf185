import DataAccess.Engine.Preloading
import DataAccess.Proofs.Entity.Equality
import DataAccess.Proofs.Plan.Parts
import Mathlib.Data.List.Forall2

/-! The keys of parents. A preload asks for the keys that its parents have, each where it occurs
first, and for nothing if none has one that is not null. Parents that have been handed records still
have their keys, if that is how the entity takes records. -/
namespace DataAccess

/-- An entity that has taken records still has its keys. -/
class LawfulEntity (α : Type) [Entity α] : Prop where
  keyValue?_of_attach {parent child : α} {relation : String} {records : List Record}
    (attached : Entity.attach parent relation records = .ok child) :
    Entity.keyValue? child = Entity.keyValue? parent

theorem Row.eq_of_attach {schema : Schema} {parent child : Row schema} {relation : String}
    {records : List Record} (attached : parent.attach relation records = .ok child) :
    child = { parent with attached := parent.attached.insert relation records } := by
  unfold attach at attached
  split at attached
  · cases attached
  · split at attached
    · exact (Except.ok.inj attached).symm
    · cases attached

instance (schema : Schema) : LawfulEntity (Row schema) where
  keyValue?_of_attach attached := by
    rw [Row.eq_of_attach attached]
    rfl

variable {α : Type} [Entity α]

namespace Entity

/-- The keys that parents have in a column, null left out, each where it occurs first. -/
def keysOf (parents : List α) (column : String) : List Value :=
  Value.firstOccurrences ((parents.filterMap (keyValue? · column)).filter fun key => !key.isNull)

/-- Children have the keys of their parents, one by one. -/
def SameKeys (parents children : List α) : Prop :=
  List.Forall₂ (fun parent child => keyValue? child = keyValue? parent) parents children

variable {parents middle children : List α}

theorem SameKeys.filterMap (same : SameKeys parents children) (column : String) :
    children.filterMap (keyValue? · column) = parents.filterMap (keyValue? · column) := by
  induction same with
  | nil => rfl
  | cons first _ ih => rw [List.filterMap_cons, List.filterMap_cons, first, ih]

theorem SameKeys.keysOf (same : SameKeys parents children) :
    Entity.keysOf children = Entity.keysOf parents := by
  funext column
  rw [Entity.keysOf, Entity.keysOf, same.filterMap]

theorem SameKeys.symm (same : SameKeys parents children) : SameKeys children parents :=
  same.flip.imp fun _ _ => Eq.symm

theorem SameKeys.trans (first : SameKeys parents middle) (second : SameKeys middle children) :
    SameKeys parents children := by
  induction first generalizing children with
  | nil => exact second
  | cons here _ ih =>
    cases second with
    | cons there later => exact .cons (there.trans here) (ih later)

theorem sameKeys_of_attach [LawfulEntity α] {relation : String} {records : α → List Record}
    (attached : (parents.mapM fun parent => attach parent relation (records parent)) =
      .ok children) : SameKeys parents children := by
  induction parents generalizing children with
  | nil =>
    obtain rfl := Except.ok.inj attached
    exact .nil
  | cons parent rest ih =>
    rw [List.mapM_cons] at attached
    obtain ⟨child, first, attached⟩ := exists_of_bind attached
    obtain ⟨later, others, attached⟩ := exists_of_bind attached
    obtain rfl := Except.ok.inj attached
    exact .cons (LawfulEntity.keyValue?_of_attach first) (ih others)

end Entity

namespace Engine

/-- The keys that are collected one by one are those that occur for the first time. -/
theorem foldl_addKey (keys : List Value) :
    keys.foldl addKey [] = Value.firstOccurrences (keys.filter fun key => !key.isNull) := by
  induction keys using List.reverseRecOn with
  | nil => rfl
  | append_singleton keys key ih =>
    rw [List.foldl_append, ih, List.filter_append, List.foldl_cons, List.foldl_nil, addKey,
      Value.any_same_firstOccurrences]
    by_cases null : key.isNull
    · simp [null]
    · rw [Bool.not_eq_true] at null
      simp only [null, Bool.false_or, List.filter_cons, Bool.not_false, if_true, List.filter_nil]
      rw [Value.firstOccurrences_append_singleton]

theorem parentKeys_eq (parents : List α) (column : String) :
    parentKeys parents column = Entity.keysOf parents column :=
  foldl_addKey _

end Engine

namespace Preload

/-- Whether some parent has a key that is not null. -/
def hasKeys (preload : Preload) (parents : List α) : Bool :=
  parents.any fun parent => (Entity.keyValue? parent preload.localKey).any fun key => !key.isNull

theorem keysOf_eq_nil_iff {preload : Preload} {parents : List α} :
    Entity.keysOf parents preload.localKey = [] ↔ preload.hasKeys parents = false := by
  rw [Entity.keysOf, Value.firstOccurrences_eq_nil_iff, List.filter_eq_nil_iff, hasKeys,
    List.any_eq_false]
  simp only [List.mem_filterMap, Option.any_eq_true]
  constructor
  · rintro none parent member ⟨key, held, present⟩
    exact none key ⟨parent, member, held⟩ present
  · rintro none key ⟨parent, member, held⟩ present
    exact none parent member ⟨key, held, present⟩

theorem hasKeys_of_sameKeys {parents children : List α}
    (same : Entity.SameKeys parents children) (preload : Preload) :
    preload.hasKeys children = preload.hasKeys parents := by
  rw [Bool.eq_iff_iff, ← not_iff_not, Bool.not_eq_true, Bool.not_eq_true, ← keysOf_eq_nil_iff,
    ← keysOf_eq_nil_iff, same.keysOf]

end Preload

end DataAccess
