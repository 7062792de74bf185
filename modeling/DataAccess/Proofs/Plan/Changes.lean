import DataAccess.Proofs.Plan.Assignment

/-! Changes as an ordered map. However often columns are assigned, each of them is kept once, in the
order of the first assignments and with the value of the last one. So an update assigns no column
twice, and its first arguments are the values that are kept. -/
namespace DataAccess

open Sql

theorem mem_assign {column : String} {value : Value} {assignments : List (String × Value)}
    (distinct : (assignments.map Prod.fst).Nodup) {entry : String × Value}
    (member : entry ∈ assign column value assignments) :
    entry = (column, value) ∨ entry ∈ assignments ∧ entry.1 ≠ column := by
  induction assignments with
  | nil => exact .inl (List.mem_singleton.1 member)
  | cons head rest ih =>
    obtain ⟨other, old⟩ := head
    obtain ⟨first, distinct⟩ := List.nodup_cons.1 distinct
    unfold assign at member
    by_cases same : other = column
    · subst same
      rw [if_pos rfl] at member
      rcases List.mem_cons.1 member with rfl | later
      · exact .inl rfl
      · have listed : entry.1 ∈ rest.map Prod.fst := List.mem_map_of_mem later
        refine .inr ⟨List.mem_cons_of_mem _ later, ?_⟩
        rintro rfl
        exact first listed
    · rw [if_neg same] at member
      rcases List.mem_cons.1 member with rfl | later
      · exact .inr ⟨List.mem_cons_self, same⟩
      · exact (ih distinct later).imp_right (And.imp_left (List.mem_cons_of_mem _))

/-- What is left of a sequence of assignments: every column once, where it is assigned first, with
the value that it is assigned last. -/
structure Summarises (calls assignments : List (String × Value)) : Prop where
  distinct : (assignments.map Prod.fst).Nodup
  columns : assignments.map Prod.fst = (calls.map Prod.fst).eraseDups
  values : ∀ entry ∈ assignments, ∃ earlier later,
    calls = earlier ++ entry :: later ∧ entry.1 ∉ later.map Prod.fst

/-- One more assignment. -/
theorem Summarises.assign {calls assignments : List (String × Value)}
    (summary : Summarises calls assignments) (column : String) (value : Value) :
    Summarises (calls ++ [(column, value)]) (DataAccess.assign column value assignments) := by
  obtain ⟨distinct, columns, values⟩ := summary
  refine ⟨nodup_assign column value distinct, ?_, ?_⟩
  · -- a column that is there keeps its place, and a new one goes to the end
    rw [keys_assign, columns, List.map_append, List.map_singleton, List.eraseDups_append]
    by_cases known : column ∈ calls.map Prod.fst
    · have none : [column].removeAll (calls.map Prod.fst) = [] := by
        simp [List.removeAll, known]
      rw [if_pos (List.mem_eraseDups.2 known), none, List.eraseDups_nil, List.append_nil]
    · have one : [column].removeAll (calls.map Prod.fst) = [column] := by
        simp [List.removeAll, known]
      rw [if_neg (mt List.mem_eraseDups.1 known), one]
      rfl
  · intro entry member
    obtain rfl | ⟨kept, differs⟩ := mem_assign distinct member
    · exact ⟨calls, [], rfl, nofun⟩
    · obtain ⟨earlier, later, rfl, last⟩ := values entry kept
      refine ⟨earlier, later ++ [(column, value)], by simp, ?_⟩
      rw [List.map_append, List.mem_append, not_or]
      exact ⟨last, by simpa using differs⟩

namespace Changes

theorem ofList_concat (calls : List (String × Value)) (column : String) (value : Value) :
    ofList (calls ++ [(column, value)]) = (ofList calls).set column value := by
  unfold ofList
  rw [List.foldl_append]
  rfl

/-- A sequence of assignments leaves its summary. -/
theorem summarises_ofList (calls : List (String × Value)) :
    Summarises calls (ofList calls).assignments := by
  induction calls using List.reverseRecOn with
  | nil => exact ⟨List.nodup_nil, rfl, nofun⟩
  | append_singleton calls call ih =>
    obtain ⟨column, value⟩ := call
    rw [ofList_concat]
    exact ih.assign column value

end Changes

theorem requireColumns_eq_ok_iff {columns : List String} :
    requireColumns columns = .ok () ↔ ∀ column ∈ columns, isIdentifier column false := by
  refine ⟨identifiers_of_requireColumns, fun named => ?_⟩
  induction columns with
  | nil => rfl
  | cons column rest ih =>
    obtain ⟨here, later⟩ := List.forall_mem_cons.1 named
    have checked : checkIdentifier column .column = .ok () := by
      rw [checkIdentifier, if_pos here]
    have accepted : requireIdentifier column .column = .ok () := by
      rw [requireIdentifier, checked]
      rfl
    have step : requireColumns (column :: rest) =
      (requireIdentifier column .column >>= fun _ => requireColumns rest) := rfl
    rw [step, accepted]
    exact ih later

/-- The column that a member of a `SET` list assigns. A further expression of a list value assigns
none. -/
def assignedColumn? : List Token → Option String
  | .word column :: .operator ['='] :: _ => some (String.ofList column)
  | _ => none

theorem Dialect.assignedColumns_entry (dialect : Dialect) (before : Nat) (entry : String × Value) :
    (dialect.entryMembers true before entry).filterMap assignedColumn? = [entry.1] := by
  have nonempty : dialect.slotTokens before entry.2.slots ≠ [] := by
    rw [← List.length_pos_iff, length_slotTokens]
    exact List.length_pos_of_ne_nil entry.2.slots_ne_nil
  obtain ⟨token, rest, slots⟩ := List.exists_cons_of_ne_nil nonempty
  have further : (rest.map ([·])).filterMap assignedColumn? = [] := by
    rw [List.filterMap_map, List.filterMap_eq_nil_iff]
    intro other _
    cases other <;> rfl
  have first : assignedColumn? (leadTokens true entry.1 ++ [token]) = some entry.1 :=
    congrArg some String.ofList_toList
  rw [entryMembers, slots, List.map_cons, List.modifyHead_cons, List.filterMap_cons, first]
  simp only [further]

/-- Read back, the assigned columns are those of the entries. -/
theorem Dialect.assignedColumns_entries (dialect : Dialect) (before : Nat)
    (entries : List (String × Value)) :
    (dialect.entriesMembers true before entries).filterMap assignedColumn? =
      entries.map Prod.fst := by
  induction entries generalizing before with
  | nil => rfl
  | cons entry rest ih =>
    rw [entriesMembers, List.filterMap_append, assignedColumns_entry, ih]
    rfl

/-- A closed layout binds its own arguments first, whatever stands behind it. -/
theorem Layout.exists_args_eq (dialect : Dialect) {layout : Layout} (closed : layout.IsClosed)
    (rest : String) (extra : List Value) :
    ∃ more, (Fragment.render ⟨layout.fragment.sql ++ rest, layout.fragment.args ++ extra⟩
      dialect).args = scalars layout.fragment.args ++ more := by
  have whole := Fragment.render_append ⟨layout.fragment.sql, layout.fragment.args ++ extra⟩
    dialect rest
  rw [render_append_args closed, statement_eq] at whole
  exact ⟨_, congrArg Statement.args whole⟩

/-- What an update says: behind `SET` every column once, with the values as its first arguments.
Nothing or a predicate follows. Written for a backend, the list assigns just these columns, and what
it binds comes first. -/
structure AssignsInOrder (dialect : Dialect) (table : String)
    (assignments : List (String × Value)) (statement : Statement) : Prop where
  planned : ∃ rest extra, (rest = "" ∨ ∃ predicate, rest = " WHERE " ++ predicate) ∧
    statement = Fragment.render ⟨"UPDATE " ++ table ++ " SET " ++
        ", ".intercalate (assignments.map fun assignment => assignment.1 ++ " = ?") ++ rest,
      assignments.map Prod.snd ++ extra⟩ dialect
  written : ∃ list back members, (back = "" ∨ ∃ predicate, back = " WHERE " ++ predicate) ∧
    statement.sql = "UPDATE " ++ table ++ " SET " ++ list ++ back ∧
    members? list = some members ∧
    members.filterMap assignedColumn? = assignments.map Prod.fst
  bound : ∃ more, statement.args = scalars (assignments.map Prod.snd) ++ more

namespace Planner

variable {schema : Schema} {planner : Planner schema}

theorem update_eq_ok_iff {condition : Option Condition} {changes : Changes}
    {statement : Statement} :
    planner.update condition changes = .ok statement ↔
      (changes.assignments ≠ [] ∧
        ∀ column ∈ changes.assignments.map Prod.fst, isIdentifier column false) ∧
      statement = (Shape.template ⟨schema.updateLayout changes.assignments,
        planner.restrictions condition, ""⟩).render planner.dialect := by
  rw [← requireColumns_eq_ok_iff]
  unfold update
  rw [Schema.updateHead_eq, mutation_eq]
  by_cases empty : changes.isEmpty
  · rw [if_pos empty]
    refine ⟨nofun, ?_⟩
    rintro ⟨⟨assigned, _⟩, _⟩
    exact absurd (List.isEmpty_iff.1 empty) assigned
  · have assigned : changes.assignments ≠ [] := mt List.isEmpty_iff.2 empty
    rw [if_neg empty]
    cases requireColumns (changes.assignments.map Prod.fst) with
    | error error =>
      refine ⟨nofun, ?_⟩
      rintro ⟨⟨_, accepted⟩, _⟩
      contradiction
    | ok _ =>
      constructor
      · intro planned
        exact ⟨⟨assigned, rfl⟩, (Except.ok.inj planned).symm⟩
      · rintro ⟨_, rfl⟩
        rfl

variable (planner)

/-- The values of an update are those of its changes, behind its columns. -/
theorem fragment_updatedValues (condition : Option Condition) (changes : Changes) :
    (planner.updatedValues condition changes).layout.fragment =
      ⟨(schema.updateHead changes.assignments).sql ++
        (planner.updatedValues condition changes).closing, changes.assignments.map Prod.snd⟩ := by
  have layout : (planner.updatedValues condition changes).layout =
    schema.updateLayout changes.assignments ++
      [.text (planner.updatedValues condition changes).closing] := rfl
  rw [layout, Layout.fragment_append, ← Schema.updateHead_eq]
  simp [Schema.updateHead]

/-- Behind the values of an update stands nothing or a predicate. -/
theorem updatedValues_ending (condition : Option Condition) (changes : Changes) {text : String}
    (silent : (planner.updatedValues condition changes).closing = "" → text = "") :
    (planner.updatedValues condition changes).closing ++ text = "" ∨
      ∃ predicate, (planner.updatedValues condition changes).closing ++ text =
        " WHERE " ++ predicate := by
  revert silent
  unfold updatedValues
  cases Restriction.predicate? (planner.restrictions condition) with
  | none =>
    intro silent
    rw [silent rfl]
    exact .inl rfl
  | some predicate => exact fun _ => .inr ⟨text, rfl⟩

variable {planner}

/-- A planned update assigns the columns of its changes in their order. -/
theorem assigns_of_update (tableNamed : isIdentifier schema.table false)
    {condition : Option Condition} {changes : Changes} {statement : Statement}
    (planned : planner.update condition changes = .ok statement) :
    AssignsInOrder planner.dialect schema.table changes.assignments statement := by
  obtain ⟨⟨nonempty, named⟩, rfl⟩ := update_eq_ok_iff.1 planned
  obtain ⟨rest, extra, leads⟩ := planner.exists_leads_updatedValues condition changes
  have plain := planner.isPlain_updatedValues tableNamed condition changes
  have closed := plain.isClosed_layout ⟨nonempty, named⟩
  obtain ⟨back, sql, alone⟩ := Layout.exists_render_eq_written planner.dialect closed rest extra
  obtain ⟨more, args⟩ := Layout.exists_args_eq planner.dialect closed rest extra
  rw [← leads.template_eq] at sql args
  constructor
  · refine ⟨_, extra, planner.updatedValues_ending condition changes leads.closed_off, ?_⟩
    rw [leads.template_eq, fragment_updatedValues, Schema.updateHead]
    simp only [String.append_assoc]
  · have silent (none : (planner.updatedValues condition changes).closing = "") : back = "" := by
      rw [alone (.inl (leads.closed_off none)), leads.closed_off none]
    refine ⟨(entriesLayout true changes.assignments).written planner.dialect 0, _, _,
      planner.updatedValues_ending condition changes silent, ?_,
      planner.dialect.members?_entries true 0 nonempty
        fun _ entry listed => named _ (List.mem_map_of_mem listed),
      planner.dialect.assignedColumns_entries 0 changes.assignments⟩
    rw [sql, WrittenValues.written_layout, String.append_assoc]
    rfl
  · refine ⟨more, ?_⟩
    rw [args, fragment_updatedValues]

end Planner

/-- However often columns are assigned, by one call after the other or by the entries of a row, each
is kept once, where it came first, with the value that came last; the identity of a row is left out.
An update is planned if there are changes and their columns are identifiers. It assigns every column
once, and its first arguments are the values in their order. -/
theorem Changes.last_assignment_counts :
    (∀ calls, Summarises calls (ofList calls).assignments) ∧
    (∀ {schema : Schema} (row : Row schema),
      Summarises (row.values.filter fun entry => entry.1 ≠ schema.idColumn)
        (ofRow row).assignments ∧
      schema.idColumn ∉ (ofRow row).assignments.map Prod.fst) ∧
    ∀ {schema : Schema} {spec : Spec} {settings : Settings} {unscoped : Bool}
      {planner : Planner schema}, Planner.make schema spec settings unscoped = .ok planner →
      ∀ condition changes,
        ((∃ statement, planner.update condition changes = .ok statement) ↔
          changes.assignments ≠ [] ∧
            ∀ column ∈ changes.assignments.map Prod.fst, isIdentifier column false) ∧
        ∀ statement, planner.update condition changes = .ok statement →
          (changes.assignments.map Prod.fst).Nodup ∧
          AssignsInOrder planner.dialect schema.table changes.assignments statement ∧
          ((∀ value ∈ changes.assignments.map Prod.snd, value.isScalar) →
            ∃ more, statement.args = changes.assignments.map Prod.snd ++ more) := by
  refine ⟨summarises_ofList, fun {schema} row => ?_, ?_⟩
  · have summary := summarises_ofList (row.values.filter fun entry => entry.1 ≠ schema.idColumn)
    refine ⟨summary, fun member => ?_⟩
    obtain ⟨⟨_, value⟩, kept, rfl⟩ := List.mem_map.1 member
    obtain ⟨earlier, later, split, _⟩ := summary.values _ kept
    have listed : (schema.idColumn, value) ∈
        row.values.filter fun entry => entry.1 ≠ schema.idColumn := by
      rw [split]
      exact List.mem_append_right _ List.mem_cons_self
    simpa using (List.mem_filter.1 listed).2
  · intro schema spec settings unscoped planner made condition changes
    obtain ⟨_, tableNamed, _⟩ := Planner.make_eq made
    constructor
    · constructor
      · rintro ⟨statement, planned⟩
        exact (Planner.update_eq_ok_iff.1 planned).1
      · intro accepted
        exact ⟨_, Planner.update_eq_ok_iff.2 ⟨accepted, rfl⟩⟩
    · intro statement planned
      have assigns := Planner.assigns_of_update tableNamed planned
      refine ⟨changes.distinct, assigns, fun scalar => ?_⟩
      obtain ⟨more, bound⟩ := assigns.bound
      rw [scalars_of_isScalar scalar] at bound
      exact ⟨more, bound⟩

/-- A post that lists its title twice, and its identity among its columns. -/
def retitledPost : Row PlannedCall.taggedPosts :=
  ⟨(5 : Int64), [("id", .int 5), ("title", .text "a"), ("tags", .null), ("title", .text "b")],
    .empty⟩

/-- The title stands first and has its last value; the null is written in place. -/
theorem Changes.last_assignment_counts_of_post :
    (ofRow retitledPost).assignments = [("title", .text "b"), ("tags", .null)] ∧
    Summarises [("title", .text "a"), ("tags", .null), ("title", .text "b")]
      (ofRow retitledPost).assignments ∧
    PlannedCall.taggedPlanner.update none (ofRow retitledPost) =
      .ok ⟨"UPDATE posts SET title = $1, tags = NULL", [.text "b"]⟩ ∧
    AssignsInOrder .postgres "posts" (ofRow retitledPost).assignments
      ⟨"UPDATE posts SET title = $1, tags = NULL", [.text "b"]⟩ := by
  obtain ⟨_, rows, updates⟩ := last_assignment_counts
  have made : Planner.make PlannedCall.taggedPosts .empty PlannedCall.taggedPlanner.settings false =
    .ok PlannedCall.taggedPlanner := rfl
  have planned : PlannedCall.taggedPlanner.update none (ofRow retitledPost) =
    .ok ⟨"UPDATE posts SET title = $1, tags = NULL", [.text "b"]⟩ := rfl
  obtain ⟨_, assigns, _⟩ := (updates made none (ofRow retitledPost)).2 _ planned
  exact ⟨rfl, (rows retitledPost).1, planned, assigns⟩

end DataAccess
