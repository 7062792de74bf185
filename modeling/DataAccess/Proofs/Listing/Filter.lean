import DataAccess.Listing.Filter
import DataAccess.Proofs.Sql.Compilation
import Mathlib.Data.List.Sort

/-! The leaves of a compiled request. Each is on a column that the specification searches or
filters, so the condition is read whenever those columns are operands. The filters that count are
the declared ones with a value, in the order of their keys. -/
namespace DataAccess

open Sql

/-- Ascending lists with the same entries are the same list. -/
theorem Ascending.eq_of_mem_iff {α : Type} {first second : List (String × α)}
    (ordered : Ascending first) (ordered' : Ascending second)
    (same : ∀ entry, entry ∈ first ↔ entry ∈ second) : first = second := by
  have irreflexive : Std.Irrefl fun a b : String × α => a.1 < b.1 :=
    ⟨fun a => String.lt_irrefl a.1⟩
  have antisymmetric : Std.Antisymm fun a b : String × α => a.1 < b.1 :=
    ⟨fun a _ below above => absurd (String.lt_trans below above) (String.lt_irrefl a.1)⟩
  exact List.Pairwise.eq_of_mem_iff ordered ordered' same

namespace Condition

theorem leaves_append (connective : Connective) (chain operand : Condition) :
    (append connective chain operand).leaves = chain.leaves ++ operand.leaves := by
  cases chain <;> rfl

theorem leaves_foldl {α : Type} (connective : Connective) (operand : α → Condition)
    (items : List α) (chain : Condition) :
    (items.foldl (fun chain item => append connective chain (operand item)) chain).leaves =
      chain.leaves ++ items.flatMap fun item => (operand item).leaves := by
  induction items generalizing chain with
  | nil => simp
  | cons item rest ih =>
    rw [List.foldl_cons, ih, leaves_append, List.append_assoc, List.flatMap_cons]

end Condition

theorem FilterKind.column_of_condition (kind : FilterKind) (column : String) (value : Value) :
    ∀ leaf ∈ (kind.condition column value).leaves, leaf.column? = some column := by
  unfold condition
  split <;>
  · intro leaf member
    obtain rfl := List.mem_singleton.1 member
    rfl

namespace Spec

/-- The columns that requests can name are operands. -/
structure NamesOperands (spec : Spec) : Prop where
  searchable : ∀ column ∈ spec.searchable, isOperand column
  filterable : ∀ key field, spec.filterable.get? key = some field →
    isOperand (field.column.getD key)

theorem leaves_searchCondition (spec : Spec) (term : String) :
    (spec.searchCondition term).leaves =
      spec.searchable.flatMap fun column => (Condition.contains column term).leaves :=
  Condition.leaves_foldl .or (fun column => Condition.contains column term) spec.searchable .empty

theorem leaves_compile (spec : Spec) (request : ListingRequest) :
    (spec.compile request).leaves =
      (spec.requestOperands request).flatMap Condition.leaves :=
  Condition.leaves_foldl .and id (spec.requestOperands request) .empty

/-- The leaves of what a request asks for are on columns that requests can name. -/
theorem column_of_requestOperands {spec : Spec} {request : ListingRequest} {operand : Condition}
    (member : operand ∈ spec.requestOperands request) :
    ∀ leaf ∈ operand.leaves, ∃ column, leaf.column? = some column ∧
      (column ∈ spec.searchable ∨
        ∃ key field, spec.filterable.get? key = some field ∧ column = field.column.getD key) := by
  intro leaf inside
  rcases List.mem_append.1 member with searched | filtered
  · split at searched
    · split at searched
      · contradiction
      · obtain rfl := List.mem_singleton.1 searched
        rw [leaves_searchCondition] at inside
        obtain ⟨column, listed, inside⟩ := List.mem_flatMap.1 inside
        obtain rfl := List.mem_singleton.1 inside
        exact ⟨column, rfl, .inl listed⟩
    · contradiction
  · obtain ⟨⟨key, value⟩, _, compiled⟩ := List.mem_filterMap.1 filtered
    simp only [filterCondition?] at compiled
    cases declared : spec.filterable.get? key with
    | none => simp [declared] at compiled
    | some field =>
      simp only [declared, Option.ite_none_left_eq_some] at compiled
      cases compiled.2
      exact ⟨_, field.kind.column_of_condition _ value leaf inside, .inr ⟨key, field, declared, rfl⟩⟩

theorem column_of_compile {spec : Spec} {request : ListingRequest} :
    ∀ leaf ∈ (spec.compile request).leaves, ∃ column, leaf.column? = some column ∧
      (column ∈ spec.searchable ∨
        ∃ key field, spec.filterable.get? key = some field ∧ column = field.column.getD key) := by
  intro leaf member
  rw [leaves_compile] at member
  obtain ⟨operand, listed, inside⟩ := List.mem_flatMap.1 member
  exact column_of_requestOperands listed leaf inside

/-- A compiled request is read if the columns that requests can name are operands. -/
theorem isWellFormed_of_compile {spec : Spec} (named : spec.NamesOperands)
    (request : ListingRequest) :
    ∀ leaf ∈ (spec.compile request).leaves, leaf.IsWellFormed := by
  intro leaf member
  obtain ⟨column, on, origin⟩ := column_of_compile leaf member
  simp only [Leaf.IsWellFormed, on]
  rcases origin with searched | ⟨key, field, declared, rfl⟩
  · exact named.searchable column searched
  · exact named.filterable key field declared

/-- A filter that counts, with the target of its key. -/
def declared? (spec : Spec) (entry : String × Value) : Option (String × FilterField × Value) :=
  (spec.filterable.get? entry.1).bind fun field =>
    if entry.2.isNull then none else some (entry.1, field, entry.2)

/-- The filters of a request that count. -/
def declared (spec : Spec) (request : ListingRequest) : List (String × FilterField × Value) :=
  request.filters.entries.filterMap spec.declared?

def filterCondition (filter : String × FilterField × Value) : Condition :=
  filter.2.1.kind.condition (filter.2.1.column.getD filter.1) filter.2.2

theorem filterConditions_eq (spec : Spec) (request : ListingRequest) :
    (request.filters.entries.filterMap fun (key, value) => spec.filterCondition? key value) =
      (spec.declared request).map filterCondition := by
  rw [declared, List.map_filterMap]
  refine List.filterMap_congr fun entry _ => ?_
  simp only [filterCondition?, declared?]
  cases spec.filterable.get? entry.1 with
  | none => rfl
  | some field => cases entry.2.isNull <;> rfl

theorem declared?_eq_some {spec : Spec} {entry : String × Value}
    {filter : String × FilterField × Value} :
    spec.declared? entry = some filter ↔
      spec.filterable.get? entry.1 = some filter.2.1 ∧ entry.2.isNull = false ∧
        filter = (entry.1, filter.2.1, entry.2) := by
  unfold declared?
  rw [Option.bind_eq_some_iff]
  constructor
  · rintro ⟨field, target, counts⟩
    simp only [Option.ite_none_left_eq_some, Bool.not_eq_true, Option.some.injEq] at counts
    obtain ⟨filled, rfl⟩ := counts
    exact ⟨target, filled, rfl⟩
  · rintro ⟨target, filled, same⟩
    exact ⟨_, target, by rw [filled, same]; rfl⟩

theorem ascending_declared (spec : Spec) (request : ListingRequest) :
    Ascending (spec.declared request) := by
  refine List.Pairwise.filterMap _ ?_ request.filters.ascending
  intro entry entry' below filter counts filter' counts'
  obtain ⟨_, _, same⟩ := declared?_eq_some.1 counts
  obtain ⟨_, _, same'⟩ := declared?_eq_some.1 counts'
  rw [same, same']
  exact below

/-- The filters that count are the declared ones with a value. -/
theorem mem_declared {spec : Spec} {request : ListingRequest} {key : String} {field : FilterField}
    {value : Value} :
    (key, field, value) ∈ spec.declared request ↔
      spec.filterable.get? key = some field ∧ request.filters.get? key = some value ∧
        value.isNull = false := by
  simp only [declared, List.mem_filterMap, declared?_eq_some, Dict.get?_eq_some_iff]
  constructor
  · rintro ⟨⟨key', value'⟩, listed, target, filled, same⟩
    cases same
    exact ⟨target, listed, filled⟩
  · rintro ⟨target, listed, filled⟩
    exact ⟨(key, value), listed, target, filled, rfl⟩

end Spec

end DataAccess
