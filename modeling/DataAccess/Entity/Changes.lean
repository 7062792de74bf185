import DataAccess.Entity.Schema

/-! Column assignments of an update. Columns keep the order of their first assignment, and the last
value assigned to a column counts. -/
namespace DataAccess

/-- Assign a value in a list of assignments: in place, or at the end if the column is new. -/
def assign (column : String) (value : Value) : List (String × Value) → List (String × Value)
  | [] => [(column, value)]
  | (other, old) :: rest =>
    if other = column then (other, value) :: rest else (other, old) :: assign column value rest

theorem keys_assign (column : String) (value : Value) (assignments : List (String × Value)) :
    (assign column value assignments).map Prod.fst =
      if column ∈ assignments.map Prod.fst then assignments.map Prod.fst
      else assignments.map Prod.fst ++ [column] := by
  induction assignments with
  | nil => rfl
  | cons head rest ih =>
    obtain ⟨other, old⟩ := head
    unfold assign
    by_cases same : other = column
    · simp [same]
    · simp only [same, if_false, List.map_cons, ih, List.mem_cons, Ne.symm same, false_or]
      split <;> simp

theorem nodup_assign (column : String) (value : Value) {assignments : List (String × Value)}
    (distinct : (assignments.map Prod.fst).Nodup) :
    ((assign column value assignments).map Prod.fst).Nodup := by
  rw [keys_assign]
  split
  · exact distinct
  next new =>
    exact List.nodup_append.2 ⟨distinct, List.pairwise_singleton _ _, fun a member b last equal =>
      new (List.mem_singleton.1 last ▸ equal ▸ member)⟩

/-- The assignments of an update; no column is assigned twice. -/
structure Changes where
  assignments : List (String × Value)
  distinct : (assignments.map Prod.fst).Nodup

namespace Changes

def empty : Changes := ⟨[], List.nodup_nil⟩

def set (changes : Changes) (column : String) (value : Value) : Changes :=
  ⟨assign column value changes.assignments, nodup_assign column value changes.distinct⟩

def isEmpty (changes : Changes) : Bool := changes.assignments.isEmpty

def size (changes : Changes) : Nat := changes.assignments.length

def ofList (assignments : List (String × Value)) : Changes :=
  assignments.foldl (fun changes (column, value) => changes.set column value) empty

/-- Every written column of a row except its identity. -/
def ofRow {schema : Schema} (row : Row schema) : Changes :=
  ofList (row.values.filter fun entry => entry.1 ≠ schema.idColumn)

end Changes

end DataAccess
