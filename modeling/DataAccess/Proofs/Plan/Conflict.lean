import DataAccess.Plan.Writing
import DataAccess.Proofs.Sql.Members

/-! What an upsert does on a conflict, as it is read in its text. A dialect has its own words for the
value that would have been inserted, and MySQL has words that keep the identity of the stored row as
the last inserted one. -/
namespace DataAccess

open Sql

/-- Where an assignment on a conflict takes its value from. -/
inductive ConflictSource where
  /-- the row that would have been inserted -/
  | incoming (column : String)
  /-- the stored row; what is taken is kept as the last inserted identity -/
  | stored (column : String)

/-- A column that is assigned on a conflict, and what is assigned to it. -/
abbrev ConflictAssignment := String × ConflictSource

namespace Dialect

variable (dialect : Dialect)

/-- Read one assignment. -/
def assignment? : List Token → Option ConflictAssignment
  | [.word column, .operator ['='], .word source] =>
    if dialect = .mysql then none
    else (source.dropPrefix? "excluded.".toList).map fun origin =>
      (String.ofList column, .incoming (String.ofList origin))
  | [.word column, .operator ['='], .word function, .mark '(', .word source, .mark ')'] =>
    if dialect ≠ .mysql then none
    else if String.ofList function = "VALUES" then
      some (String.ofList column, .incoming (String.ofList source))
    else if String.ofList function = "LAST_INSERT_ID" then
      some (String.ofList column, .stored (String.ofList source))
    else none
  | _ => none

/-- Read the assignments of a list. -/
def assignments? (list : String) : Option (List ConflictAssignment) :=
  (members? list).bind (·.mapM dialect.assignment?)

/-- What stands in front of the assignments. -/
def conflictWords (conflict : List String) : String :=
  if dialect = .mysql then " ON DUPLICATE KEY UPDATE "
  else " ON CONFLICT (" ++ ", ".intercalate conflict ++ ") DO UPDATE SET "

/-- The words of a dialect for the value of a column. -/
def sourceText : ConflictSource → String
  | .incoming column =>
    if dialect = .mysql then "VALUES(" ++ column ++ ")" else "excluded." ++ column
  | .stored column => "LAST_INSERT_ID(" ++ column ++ ")"

def assignmentText (assignment : ConflictAssignment) : String :=
  assignment.1 ++ " = " ++ dialect.sourceText assignment.2

theorem assignmentText_incoming (column : String) :
    dialect.assignmentText (column, .incoming column) =
      if dialect = .mysql then column ++ " = VALUES(" ++ column ++ ")"
      else column ++ " = excluded." ++ column := by
  have values : " = VALUES(" = " = " ++ "VALUES(" := rfl
  have excluded : " = excluded." = " = " ++ "excluded." := rfl
  have source : dialect.sourceText (.incoming column) =
      if dialect = .mysql then "VALUES(" ++ column ++ ")" else "excluded." ++ column := rfl
  rw [assignmentText, source, values, excluded]
  split <;> simp only [String.append_assoc]

theorem assignmentText_stored (column : String) :
    dialect.assignmentText (column, .stored column) =
      column ++ " = LAST_INSERT_ID(" ++ column ++ ")" := by
  have kept : " = LAST_INSERT_ID(" = " = " ++ "LAST_INSERT_ID(" := rfl
  have source : dialect.sourceText (.stored column) = "LAST_INSERT_ID(" ++ column ++ ")" := rfl
  rw [assignmentText, source, kept]
  simp only [String.append_assoc]

theorem tokens?_call {function column : String} (name : isIdentifier function false)
    (named : isIdentifier column false) :
    tokens? (function ++ "(" ++ column ++ ")").toList =
      some [.word function.toList, .mark '(', .word column.toList, .mark ')'] := by
  obtain ⟨spoken, letters⟩ := isNameChar_of_isIdentifier name
  obtain ⟨nonempty, chars⟩ := isNameChar_of_isIdentifier named
  have whole := tokens?_parentheses (tokens?_name spoken letters) (tokens?_name nonempty chars)
  have text : (function ++ "(" ++ column ++ ")").toList =
      function.toList ++ '(' :: column.toList ++ [')'] := by simp
  rw [text]
  exact whole

theorem tokens?_excluded {column : String} (named : isIdentifier column false) :
    tokens? ("excluded." ++ column).toList =
      some [.word ("excluded.".toList ++ column.toList)] := by
  obtain ⟨_, chars⟩ := isNameChar_of_isIdentifier named
  have qualifier : "excluded.".toList.all isNameChar = true := rfl
  rw [String.toList_append]
  apply tokens?_name
  · exact List.append_ne_nil_of_left_ne_nil (List.cons_ne_nil _ _) _
  · intro c member
    rcases List.mem_append.1 member with front | back
    · exact List.all_eq_true.1 qualifier c front
    · exact chars c back

/-- An assignment is one member, and read as it was meant. -/
theorem exists_tokens_assignmentText {column : String} {source : ConflictSource}
    (named : isIdentifier column false) {right : List Token}
    (read : tokens? (dialect.sourceText source).toList = some right) (apart : .mark ',' ∉ right)
    (meant : dialect.assignment? (.word column.toList :: .operator ['='] :: right) =
      some (column, source)) :
    ∃ tokens, (tokens? (dialect.assignmentText (column, source)).toList = some tokens ∧
      .mark ',' ∉ tokens) ∧ dialect.assignment? tokens = some (column, source) := by
  obtain ⟨nonempty, chars⟩ := isNameChar_of_isIdentifier named
  have equals : tokens? "=".toList = some [.operator ['=']] := rfl
  have text : (dialect.assignmentText (column, source)).toList = column.toList ++ ' ' ::
      ("=".toList ++ ' ' :: (dialect.sourceText source).toList) := by
    simp [assignmentText]
  refine ⟨_, ⟨?_, ?_⟩, meant⟩
  · rw [text]
    exact tokens?_blank (tokens?_name nonempty chars) (tokens?_blank equals read)
  · simpa using apart

theorem exists_tokens_incoming {column : String} (named : isIdentifier column false) :
    ∃ tokens, (tokens? (dialect.assignmentText (column, .incoming column)).toList = some tokens ∧
      .mark ',' ∉ tokens) ∧ dialect.assignment? tokens = some (column, .incoming column) := by
  by_cases mysql : dialect = .mysql
  · have words : dialect.sourceText (.incoming column) = "VALUES" ++ "(" ++ column ++ ")" :=
      if_pos mysql
    apply dialect.exists_tokens_assignmentText named
    · rw [words]
      exact tokens?_call (by decide) named
    · simp
    · simp only [assignment?, mysql, String.ofList_toList]
      rfl
  · have words : dialect.sourceText (.incoming column) = "excluded." ++ column := if_neg mysql
    have dropped : ("excluded.".toList ++ column.toList).dropPrefix? "excluded.".toList =
        some column.toList :=
      List.dropPrefix?_eq_some_iff.2 ⟨_, rfl, beq_self_eq_true _⟩
    apply dialect.exists_tokens_assignmentText named
    · rw [words]
      exact tokens?_excluded named
    · simp
    · simp only [assignment?, if_neg mysql, dropped, Option.map_some, String.ofList_toList]

theorem exists_tokens_stored {column : String} (named : isIdentifier column false)
    (mysql : dialect = .mysql) :
    ∃ tokens, (tokens? (dialect.assignmentText (column, .stored column)).toList = some tokens ∧
      .mark ',' ∉ tokens) ∧ dialect.assignment? tokens = some (column, .stored column) := by
  have words : dialect.sourceText (.stored column) = "LAST_INSERT_ID" ++ "(" ++ column ++ ")" := rfl
  apply dialect.exists_tokens_assignmentText named
  · rw [words]
    exact tokens?_call (by decide) named
  · simp
  · simp only [assignment?, mysql, String.ofList_toList]
    rfl

/-- Assignments that are read one by one are read in a list. -/
theorem assignments?_intercalate {assignments : List ConflictAssignment}
    (read : ∀ assignment ∈ assignments, ∃ tokens,
      (tokens? (dialect.assignmentText assignment).toList = some tokens ∧ .mark ',' ∉ tokens) ∧
        dialect.assignment? tokens = some assignment)
    (nonempty : assignments ≠ []) :
    dialect.assignments? (", ".intercalate (assignments.map dialect.assignmentText)) =
      some assignments := by
  have each : ∃ tokens, List.Forall₂
      (fun text token => tokens? text.toList = some token ∧ .mark ',' ∉ token)
      (assignments.map dialect.assignmentText) tokens ∧
      tokens.mapM dialect.assignment? = some assignments := by
    clear nonempty
    induction assignments with
    | nil => exact ⟨[], .nil, rfl⟩
    | cons assignment rest ih =>
      obtain ⟨here, later⟩ := List.forall_mem_cons.1 read
      obtain ⟨token, first, meant⟩ := here
      obtain ⟨tokens, behind, whole⟩ := ih later
      refine ⟨token :: tokens, .cons first behind, ?_⟩
      rw [List.mapM_cons, meant, whole]
      rfl
  obtain ⟨tokens, texts, meant⟩ := each
  rw [assignments?, members?_intercalate texts (by simpa using nonempty)]
  exact meant

end Dialect

namespace IdSource

/-- The assignment that keeps the identity of the stored row as the last inserted one. -/
def kept (source : IdSource) (idColumn : String) : List ConflictAssignment :=
  match source with
  | lastInsertId => [(idColumn, .stored idColumn)]
  | _ => []

end IdSource

namespace Schema

theorem conflictColumns_ne_nil (schema : Schema) (given : List String) :
    schema.conflictColumns given ≠ [] := by
  unfold conflictColumns
  split
  · exact List.cons_ne_nil _ _
  · next named =>
    intro empty
    exact named (by simp [empty])

theorem upsertTargets_ne_nil (schema : Schema) (columns update : List String)
    {conflict : List String} (nonempty : conflict ≠ []) :
    schema.upsertTargets columns conflict update ≠ [] := by
  simp only [upsertTargets]
  generalize (if update.isEmpty then
    columns.filter fun name => name ∉ conflict ∧ name ≠ schema.idColumn else update) = chosen
  split
  · obtain ⟨first, rest, rfl⟩ := List.exists_cons_of_ne_nil nonempty
    exact List.cons_ne_nil _ _
  · next named =>
    intro empty
    exact named (by simp [empty])

end Schema

namespace Planner

variable {schema : Schema} (planner : Planner schema)

/-- The assignments of an upsert: its targets from the incoming row, and the identity from the stored
row if the backend is to report it as the last inserted one. -/
def conflictAssignments (source : IdSource) (targets : List String) : List ConflictAssignment :=
  targets.map (fun column => (column, .incoming column)) ++
    if planner.dialect = .mysql then source.kept schema.idColumn else []

/-- What stands behind the assignments. -/
def conflictTail (source : IdSource) : String :=
  if planner.dialect = .mysql then "" else source.returningText schema.idColumn

/-- The words of a conflict are read as the assignments of the upsert. -/
theorem exists_conflictText_eq (source : IdSource) (conflict : List String) {targets : List String}
    (idNamed : isIdentifier schema.idColumn false)
    (named : ∀ column ∈ targets, isIdentifier column false) (nonempty : targets ≠ []) :
    ∃ list, planner.conflictText source conflict targets =
        planner.dialect.conflictWords conflict ++ list ++ planner.conflictTail source ∧
      planner.dialect.assignments? list = some (planner.conflictAssignments source targets) := by
  have read : ∀ assignment ∈ planner.conflictAssignments source targets, ∃ tokens,
      (tokens? (planner.dialect.assignmentText assignment).toList = some tokens ∧
        .mark ',' ∉ tokens) ∧ planner.dialect.assignment? tokens = some assignment := by
    intro assignment member
    rcases List.mem_append.1 member with target | kept
    · obtain ⟨column, listed, rfl⟩ := List.mem_map.1 target
      exact planner.dialect.exists_tokens_incoming (named column listed)
    · split at kept
      · next mysql =>
        cases source with
        | lastInsertId =>
          obtain rfl := List.mem_singleton.1 kept
          exact planner.dialect.exists_tokens_stored idNamed mysql
        | _ => contradiction
      · contradiction
  have some_ : planner.conflictAssignments source targets ≠ [] := by
    simp [conflictAssignments, nonempty]
  refine ⟨_, ?_, planner.dialect.assignments?_intercalate read some_⟩
  simp only [conflictText, Dialect.conflictWords, conflictAssignments, conflictTail,
    List.map_append, List.map_map, Function.comp_def, Dialect.assignmentText_incoming]
  by_cases mysql : planner.dialect = .mysql
  · simp only [if_pos mysql]
    cases source with
    | lastInsertId => simp [IdSource.kept, Dialect.assignmentText_stored]
    | _ => simp [IdSource.kept]
  · simp only [if_neg mysql]
    simp [String.append_assoc]

end Planner

end DataAccess
