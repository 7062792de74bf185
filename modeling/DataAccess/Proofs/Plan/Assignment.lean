import DataAccess.Proofs.Listing.Lists
import DataAccess.Proofs.Plan.Call
import DataAccess.Proofs.Plan.Conflict
import DataAccess.Proofs.Plan.Listing

/-! The values of a planned write. The planner has one question mark for each column that it writes,
and rendering writes a list in its place, with one member for each slot of the value. So a column has
one expression if and only if its value takes one slot. -/
namespace DataAccess

open Sql

namespace Layout

/-- A closed layout is written the same whatever stands behind it. Text behind it stays as it is if no
argument is left. -/
theorem exists_render_eq_written (dialect : Dialect) {layout : Layout} (closed : layout.IsClosed)
    (rest : String) (extra : List Value) :
    ∃ back, (Fragment.render ⟨layout.fragment.sql ++ rest, layout.fragment.args ++ extra⟩
        dialect).sql = layout.written dialect 0 ++ back ∧
      (rest = "" ∨ extra = [] → back = rest) := by
  have whole := Fragment.render_append ⟨layout.fragment.sql, layout.fragment.args ++ extra⟩
    dialect rest
  rw [render_append_args closed] at whole
  refine ⟨_, congrArg Statement.sql whole, fun alone => ?_⟩
  rw [Fragment.behind_eq]
  rcases alone with rfl | rfl
  · exact .inr rfl
  · left
    rw [List.append_nil, marks_fragment closed]

end Layout

/-- A value behind its column, or alone where the columns are listed before the values. -/
def entryLayout (assigns : Bool) (entry : String × Value) : Layout :=
  if assigns then [.text (entry.1 ++ " = "), .argument entry.2] else [.argument entry.2]

def entriesLayout (assigns : Bool) (entries : List (String × Value)) : Layout :=
  .join ", " (entries.map (entryLayout assigns))

theorem Row.valuesLayout_eq {schema : Schema} (row : Row schema) :
    row.valuesLayout = entriesLayout false row.values := rfl

theorem Schema.updateLayout_eq (schema : Schema) (assignments : List (String × Value)) :
    schema.updateLayout assignments =
      .text ("UPDATE " ++ schema.table ++ " SET ") :: entriesLayout true assignments := rfl

/-- What is read in front of a value. -/
def leadTokens (assigns : Bool) (column : String) : List Token :=
  if assigns then [.word column.toList, .operator ['=']] else []

/-- Whether a token is an expression for one value: a null or a placeholder. -/
def Dialect.IsExpression (dialect : Dialect) (token : Token) : Prop :=
  token = nullToken ∨ ∃ position, token = dialect.placeholderToken position

/-- Every column has one expression, in the order of the columns. -/
def Dialect.OnePerColumn (dialect : Dialect) (assigns : Bool) (entries : List (String × Value))
    (members : List (List Token)) : Prop :=
  List.Forall₂ (fun entry member => ∃ expression, dialect.IsExpression expression ∧
    member = leadTokens assigns entry.1 ++ [expression]) entries members

namespace Dialect

variable (dialect : Dialect) (assigns : Bool)

/-- What is read for an entry when `before` arguments are bound before it. -/
def entryMembers (before : Nat) (entry : String × Value) : List (List Token) :=
  ((dialect.slotTokens before entry.2.slots).map ([·])).modifyHead (leadTokens assigns entry.1 ++ ·)

def entriesMembers (before : Nat) : List (String × Value) → List (List Token)
  | [] => []
  | entry :: rest =>
    dialect.entryMembers assigns before entry ++
      entriesMembers (before + (scalars [entry.2]).length) rest

theorem isExpression_of_mem_slotTokens {before : Nat} {slots : List (Option Value)} {token : Token}
    (member : token ∈ dialect.slotTokens before slots) : dialect.IsExpression token := by
  induction slots generalizing before with
  | nil => contradiction
  | cons slot rest ih =>
    cases slot with
    | none =>
      rcases List.mem_cons.1 member with rfl | later
      · exact .inl rfl
      · exact ih later
    | some value =>
      rcases List.mem_cons.1 member with rfl | later
      · exact .inr ⟨_, rfl⟩
      · exact ih later

theorem length_entryMembers (before : Nat) (entry : String × Value) :
    (dialect.entryMembers assigns before entry).length = entry.2.slots.length := by
  rw [entryMembers, List.length_modifyHead, List.length_map, length_slotTokens]

theorem length_entriesMembers (before : Nat) (entries : List (String × Value)) :
    (dialect.entriesMembers assigns before entries).length =
      (entries.flatMap (·.2.slots)).length := by
  induction entries generalizing before with
  | nil => rfl
  | cons entry rest ih =>
    rw [entriesMembers, List.length_append, length_entryMembers, ih, List.flatMap_cons,
      List.length_append]

theorem members?_entry (before : Nat) {entry : String × Value}
    (named : assigns = true → isIdentifier entry.1 false) :
    members? ((entryLayout assigns entry).written dialect before) =
      some (dialect.entryMembers assigns before entry) := by
  have slots := dialect.members?_slotsText before entry.2.slots_ne_nil
  rw [← Layout.written_argument] at slots
  cases assigns with
  | false =>
    refine slots.trans (congrArg some ?_)
    unfold entryMembers leadTokens
    cases (dialect.slotTokens before entry.2.slots).map ([·]) <;> rfl
  | true =>
    obtain ⟨nonempty, chars⟩ := isNameChar_of_isIdentifier (named rfl)
    have equals : tokens? "=".toList = some [.operator ['=']] := rfl
    have lead : tokens? (entry.1 ++ " =").toList = some (leadTokens true entry.1) := by
      rw [String.toList_append]
      exact tokens?_blank (tokens?_name nonempty chars) equals
    have apart : .mark ',' ∉ leadTokens true entry.1 := by simp [leadTokens]
    have whole := members?_blank lead apart slots
    have text : (entryLayout true entry).written dialect before =
        entry.1 ++ " =" ++ " " ++ Layout.written dialect before [.argument entry.2] := by
      have equal : " = " = " =" ++ " " := rfl
      rw [entryLayout, if_pos rfl, Layout.written_text_cons, equal, ← String.append_assoc]
    rw [text]
    exact whole

/-- The values of a write are read as the slots of each of them, one after the other. -/
theorem members?_entries (before : Nat) {entries : List (String × Value)} (nonempty : entries ≠ [])
    (named : assigns = true → ∀ entry ∈ entries, isIdentifier entry.1 false) :
    members? ((entriesLayout assigns entries).written dialect before) =
      some (dialect.entriesMembers assigns before entries) := by
  induction entries generalizing before with
  | nil => contradiction
  | cons entry rest ih =>
    have first := dialect.members?_entry assigns before
      fun assigned => named assigned entry List.mem_cons_self
    cases rest with
    | nil => simpa [entriesLayout, entriesMembers, Layout.join] using first
    | cons second rest =>
      have args : (scalars (entryLayout assigns entry ++ [Piece.text ", "]).fragment.args).length =
          (scalars [entry.2]).length := by
        unfold entryLayout
        cases assigns <;> simp
      have later := ih (before + (scalars [entry.2]).length) (List.cons_ne_nil _ _)
        fun assigned other member => named assigned other (List.mem_cons_of_mem _ member)
      have text : (entriesLayout assigns (entry :: second :: rest)).written dialect before =
          (entryLayout assigns entry).written dialect before ++ ", " ++
            (entriesLayout assigns (second :: rest)).written dialect
              (before + (scalars [entry.2]).length) := by
        rw [entriesLayout, List.map_cons, List.map_cons, Layout.join, List.intercalate_cons_cons,
          ← List.map_cons, ← Layout.join, ← entriesLayout, Layout.written_append, args,
          Layout.written_append]
        rfl
      rw [text]
      exact members?_comma first later

theorem length_le_slots (entries : List (String × Value)) :
    entries.length ≤ (entries.flatMap (·.2.slots)).length := by
  induction entries with
  | nil => exact Nat.le_refl 0
  | cons entry rest ih =>
    have positive := List.length_pos_of_ne_nil entry.2.slots_ne_nil
    rw [List.flatMap_cons, List.length_append, List.length_cons]
    omega

/-- Every column has one expression if and only if every value takes one slot. -/
theorem onePerColumn_iff (before : Nat) (entries : List (String × Value)) :
    dialect.OnePerColumn assigns entries (dialect.entriesMembers assigns before entries) ↔
      ∀ entry ∈ entries, entry.2.slots.length = 1 := by
  constructor
  · intro one
    have length := one.length_eq
    rw [length_entriesMembers] at length
    clear one
    induction entries with
    | nil => nofun
    | cons entry rest ih =>
      -- every value takes a slot, so none of them takes more
      have positive := List.length_pos_of_ne_nil entry.2.slots_ne_nil
      have enough := length_le_slots rest
      rw [List.flatMap_cons, List.length_append, List.length_cons] at length
      refine List.forall_mem_cons.2 ⟨?_, ih ?_⟩
      · omega
      · omega
  · intro single
    induction entries generalizing before with
    | nil => exact .nil
    | cons entry rest ih =>
      obtain ⟨here, later⟩ := List.forall_mem_cons.1 single
      have one : (dialect.slotTokens before entry.2.slots).length = 1 := by
        rw [length_slotTokens, here]
      obtain ⟨token, read⟩ := List.length_eq_one_iff.1 one
      have member : token ∈ dialect.slotTokens before entry.2.slots := by simp [read]
      have expression := dialect.isExpression_of_mem_slotTokens member
      rw [entriesMembers, entryMembers, read]
      exact .cons ⟨token, expression, rfl⟩ (ih _ later)

end Dialect

/-- The values of a write, and what stands around them in its text. -/
structure WrittenValues where
  opening : String
  /-- whether each value stands behind its column -/
  assigns : Bool
  entries : List (String × Value)
  closing : String

def WrittenValues.layout (values : WrittenValues) : Layout :=
  .text values.opening :: entriesLayout values.assigns values.entries ++ [.text values.closing]

namespace WrittenValues

theorem written_layout (values : WrittenValues) (dialect : Dialect) :
    values.layout.written dialect 0 = values.opening ++
      (entriesLayout values.assigns values.entries).written dialect 0 ++ values.closing := by
  rw [layout, Layout.written_append, Layout.written_text_cons, Layout.written_text_cons]
  exact congrArg _ String.append_empty

/-- The values stand in front of a template. What stands behind them is closed off. -/
structure Leads (values : WrittenValues) (template : Fragment) (rest : String)
    (extra : List Value) : Prop where
  template_eq : template =
    ⟨values.layout.fragment.sql ++ rest, values.layout.fragment.args ++ extra⟩
  closed_off : values.closing = "" → rest = ""

/-- There are values, and each has a column that is an identifier. -/
structure AreNamed (values : WrittenValues) : Prop where
  nonempty : values.entries ≠ []
  columns : ∀ column ∈ values.entries.map Prod.fst, isIdentifier column false

theorem exists_leads_of_head {values : WrittenValues} (closed : values.closing ≠ "")
    {shape : Shape} (words : String) (head : shape.head.fragment =
      ⟨values.layout.fragment.sql ++ words, values.layout.fragment.args⟩) :
    ∃ rest extra, values.Leads shape.template rest extra := by
  unfold Shape.template
  rw [head]
  cases Restriction.predicate? shape.restrictions with
  | none =>
    refine ⟨words ++ shape.tail, [], ?_, (absurd · closed)⟩
    simp [String.append_assoc]
  | some predicate =>
    refine ⟨words ++ " WHERE " ++ predicate.sql ++ shape.tail, predicate.args, ?_,
      (absurd · closed)⟩
    simp [String.append_assoc]

/-- The text in front of the values has no placeholder, and neither has the text that closes them. -/
structure IsPlain (values : WrittenValues) : Prop where
  opening : IsPlainText values.opening
  closing : IsPlainText values.closing

theorem IsPlain.isClosed_layout {values : WrittenValues} (plain : values.IsPlain)
    (named : values.AreNamed) : values.layout.IsClosed := by
  refine Layout.isClosed_text_cons plain.opening
    (Layout.IsClosed.append (.join (by decide) ?_) plain.closing)
  intro layout member
  obtain ⟨entry, listed, rfl⟩ := List.mem_map.1 member
  have column := IsPlainText.of_identifier (named.columns _ (List.mem_map_of_mem listed))
  unfold entryLayout
  split
  · exact Layout.isClosed_text_cons (column.append (by decide)) rfl
  · rfl

end WrittenValues

/-- The values of an insertion. -/
def Row.insertedValues {schema : Schema} (row : Row schema) : WrittenValues where
  opening := "INSERT INTO " ++ schema.table ++ " (" ++ ", ".intercalate (row.values.map Prod.fst) ++
    ") VALUES ("
  assigns := false
  entries := row.values
  closing := ")"

theorem Row.areNamed_of_writtenColumns {schema : Schema} {row : Row schema} {columns : List String}
    (written : row.writtenColumns = .ok columns) : row.insertedValues.AreNamed := by
  obtain ⟨rfl, named⟩ := Row.identifiers_of_writtenColumns written
  refine ⟨fun empty => ?_, named⟩
  have none : row.values = [] := empty
  rw [Row.writtenColumns, none] at written
  contradiction

theorem Row.isPlain_insertedValues {schema : Schema} {row : Row schema}
    (tableNamed : isIdentifier schema.table false) (named : row.insertedValues.AreNamed) :
    row.insertedValues.IsPlain := by
  refine ⟨?_, (by decide : IsPlainText ")")⟩
  exact (((IsPlainText.append (by decide) (.of_identifier tableNamed)).append (by decide)).append
    (.columns named.columns)).append (by decide)

theorem Row.leads_insertedValues {schema : Schema} (row : Row schema) (tail : String) :
    row.insertedValues.Leads (Shape.template ⟨row.insertLayout, [], tail⟩) tail [] := by
  have closing : row.insertedValues.closing = ")" := rfl
  constructor
  case template_eq =>
    rw [List.append_nil]
    rfl
  case closed_off =>
    rw [closing]
    intro blank
    exact absurd blank (by decide)

namespace Planner

variable {schema : Schema} (planner : Planner schema)

/-- The values of an insertion that is guarded by a select. -/
def guardedValues (row : Row schema) : WrittenValues where
  opening := (if planner.dialect = .mysql then "INSERT IGNORE" else "INSERT") ++ " INTO " ++
    schema.table ++ " (" ++ ", ".intercalate (row.values.map Prod.fst) ++ ") SELECT "
  assigns := false
  entries := row.values
  closing := (if planner.dialect = .mysql then " FROM DUAL" else "") ++
    " WHERE NOT EXISTS (SELECT 1"

/-- The values of an update. Nothing stands behind them if there is no predicate. -/
def updatedValues (condition : Option Condition) (changes : Changes) : WrittenValues where
  opening := "UPDATE " ++ schema.table ++ " SET "
  assigns := true
  entries := changes.assignments
  closing := match Restriction.predicate? (planner.restrictions condition) with
    | none => ""
    | some _ => " WHERE "

theorem isPlain_guardedValues {row : Row schema} (tableNamed : isIdentifier schema.table false)
    (named : (planner.guardedValues row).AreNamed) : (planner.guardedValues row).IsPlain := by
  have verb : IsPlainText (if planner.dialect = .mysql then "INSERT IGNORE" else "INSERT") := by
    split <;> decide
  have dual : IsPlainText (if planner.dialect = .mysql then " FROM DUAL" else "") := by
    split <;> decide
  refine ⟨?_, dual.append (by decide)⟩
  exact ((((verb.append (by decide)).append (.of_identifier tableNamed)).append (by decide)).append
    (.columns named.columns)).append (by decide)

theorem isPlain_updatedValues (tableNamed : isIdentifier schema.table false)
    (condition : Option Condition) (changes : Changes) :
    (planner.updatedValues condition changes).IsPlain := by
  refine ⟨(IsPlainText.append (by decide) (.of_identifier tableNamed)).append (by decide), ?_⟩
  unfold updatedValues
  split
  · exact (by decide : IsPlainText "")
  · exact (by decide : IsPlainText " WHERE ")

theorem exists_leads_guardedValues (condition : Option Condition) (row : Row schema)
    (source : IdSource) : ∃ rest extra, (planner.guardedValues row).Leads
      (planner.guardedShape condition row source).template rest extra := by
  have closed : (planner.guardedValues row).closing ≠ "" := by
    intro blank
    simpa [guardedValues] using congrArg String.toList blank
  apply WrittenValues.exists_leads_of_head closed planner.wholeTable.tables
  unfold guardedShape guardedValues
  by_cases mysql : planner.dialect = .mysql <;>
    simp [mysql, WrittenValues.layout, Row.valuesLayout_eq, String.append_assoc]

theorem exists_leads_updatedValues (condition : Option Condition) (changes : Changes) :
    ∃ rest extra, (planner.updatedValues condition changes).Leads (Shape.template
      ⟨schema.updateLayout changes.assignments, planner.restrictions condition, ""⟩) rest extra := by
  unfold Shape.template updatedValues
  cases Restriction.predicate? (planner.restrictions condition) with
  | none =>
    refine ⟨"", [], ?_, fun _ => rfl⟩
    simp [WrittenValues.layout, Schema.updateLayout_eq]
  | some predicate =>
    refine ⟨predicate.sql, predicate.args, ?_, fun blank => ?_⟩
    · simp [WrittenValues.layout, Schema.updateLayout_eq, String.append_assoc]
    · exact absurd blank (by decide : " WHERE " ≠ "")

end Planner

namespace PlannedCall

variable {schema : Schema} {planner : Planner schema}

/-- The values that a call writes. -/
def writtenValues? (planner : Planner schema) : PlannedCall schema → Option WrittenValues
  | insert row => some row.insertedValues
  | upsert row _ _ => some row.insertedValues
  | findOrCreate _ row => some (planner.guardedValues row)
  | update condition changes => some (planner.updatedValues condition changes)
  | _ => none

/-- What stands behind the values of an upsert is read as assignments, each with one right side. -/
def AssignsOnConflict (planner : Planner schema) (call : PlannedCall schema) (text : String) : Prop :=
  ∀ row conflict update, call = .upsert row conflict update → ∃ source list,
    text = planner.dialect.conflictWords (schema.conflictColumns conflict) ++ list ++
      planner.conflictTail source ∧
    planner.dialect.assignments? list = some (planner.conflictAssignments source
      (schema.upsertTargets (row.values.map Prod.fst) (schema.conflictColumns conflict) update))

/-- The first statement of a write has its values in front. -/
theorem leads_of_shapes (tableNamed : isIdentifier schema.table false) {call : PlannedCall schema}
    {shapes : List Shape} (planned : call.shapes planner = .ok shapes) {values : WrittenValues}
    (writes : call.writtenValues? planner = some values) :
    values.AreNamed ∧ values.IsPlain ∧ ∃ shape later rest extra, shapes = shape :: later ∧
      values.Leads shape.template rest extra ∧
      ∀ row conflict update, call = .upsert row conflict update →
        extra = [] ∧ call.AssignsOnConflict planner rest := by
  cases call with
  | insert row =>
    obtain rfl := Option.some.inj writes
    obtain ⟨columns, written, planned⟩ := exists_of_bind planned
    obtain ⟨source, _, planned⟩ := exists_of_bind planned
    obtain rfl := Except.ok.inj planned
    have named := Row.areNamed_of_writtenColumns written
    refine ⟨named, Row.isPlain_insertedValues tableNamed named, _, _, _, _, rfl,
      row.leads_insertedValues _, ?_⟩
    rintro _ _ _ ⟨⟩
  | upsert row conflict update =>
    obtain rfl := Option.some.inj writes
    obtain ⟨_, identity, planned⟩ := exists_of_bind planned
    obtain ⟨_, idNamed⟩ := Schema.identityColumn_eq identity
    obtain ⟨columns, written, planned⟩ := exists_of_bind planned
    obtain ⟨_, accepted, planned⟩ := exists_of_bind planned
    obtain ⟨source, _, planned⟩ := exists_of_bind planned
    obtain rfl := Except.ok.inj planned
    have named := Row.areNamed_of_writtenColumns written
    obtain ⟨rfl, columnsNamed⟩ := Row.identifiers_of_writtenColumns written
    have checked := identifiers_of_requireColumns accepted
    have targets := schema.identifiers_of_upsertTargets columnsNamed
      (fun column listed => checked column (List.mem_append_left _ listed))
      (fun column listed => checked column (List.mem_append_right _ listed))
    refine ⟨named, Row.isPlain_insertedValues tableNamed named, _, _, _, _, rfl,
      row.leads_insertedValues _, fun _ _ _ _ => ⟨rfl, ?_⟩⟩
    rintro _ _ _ ⟨⟩
    exact ⟨source, planner.exists_conflictText_eq source _ idNamed targets
      (schema.upsertTargets_ne_nil _ _ (schema.conflictColumns_ne_nil _))⟩
  | findOrCreate condition row =>
    obtain rfl := Option.some.inj writes
    obtain ⟨columns, written, planned⟩ := exists_of_bind planned
    obtain ⟨source, _, planned⟩ := exists_of_bind planned
    obtain rfl := Except.ok.inj planned
    have inserted := Row.areNamed_of_writtenColumns written
    have named : (planner.guardedValues row).AreNamed := ⟨inserted.nonempty, inserted.columns⟩
    obtain ⟨rest, extra, leads⟩ := planner.exists_leads_guardedValues condition row source
    refine ⟨named, planner.isPlain_guardedValues tableNamed named, _, _, _, _, rfl, leads, ?_⟩
    rintro _ _ _ ⟨⟩
  | update condition changes =>
    obtain rfl := Option.some.inj writes
    simp only [PlannedCall.shapes] at planned
    split at planned
    · cases planned
    · next assigned =>
      obtain ⟨_, accepted, planned⟩ := exists_of_bind planned
      obtain rfl := Except.ok.inj planned
      obtain ⟨rest, extra, leads⟩ := planner.exists_leads_updatedValues condition changes
      refine ⟨⟨?_, identifiers_of_requireColumns accepted⟩,
        planner.isPlain_updatedValues tableNamed condition changes, _, _, _, _, rfl, leads, ?_⟩
      · intro empty
        exact assigned (List.isEmpty_iff.2 empty)
      · rintro _ _ _ ⟨⟩
  | _ => cases writes

/-- A planned write lists its values behind its columns, or each of them behind its own column. As
many expressions are read there as the values take slots, so every column has one if and only if
every value takes one slot. Only a list can take more. What an upsert assigns on a conflict has no
placeholder, so it is written as it was planned. -/
theorem one_expression_per_column_iff {spec : Spec} {settings : Settings} {unscoped : Bool}
    (made : Planner.make schema spec settings unscoped = .ok planner) {call : PlannedCall schema}
    {statements : List Statement} (planned : call.plan planner = .ok statements)
    {values : WrittenValues} (writes : call.writtenValues? planner = some values) :
    members? (", ".intercalate (values.entries.map Prod.fst)) =
      some (values.entries.map fun entry => [.word entry.1.toList]) ∧
    ∃ statement later list back members, statements = statement :: later ∧
      statement.sql = values.opening ++ list ++ values.closing ++ back ∧
      (values.closing = "" → back = "") ∧ call.AssignsOnConflict planner back ∧
      members? list = some members ∧
      members.length = (values.entries.flatMap (·.2.slots)).length ∧
      (planner.dialect.OnePerColumn values.assigns values.entries members ↔
        ∀ entry ∈ values.entries, entry.2.slots.length = 1) ∧
      ((∀ entry ∈ values.entries, entry.2.isList = false) →
        planner.dialect.OnePerColumn values.assigns values.entries members) := by
  obtain ⟨_, tableNamed, _⟩ := Planner.make_eq made
  obtain ⟨shapes, parts, rfl⟩ := shapes_of_plan planned
  obtain ⟨named, plain, shape, later, rest, extra, rfl, leads, upserts⟩ :=
    leads_of_shapes tableNamed parts writes
  obtain ⟨back, rendered, alone⟩ := Layout.exists_render_eq_written planner.dialect
    (plain.isClosed_layout named) rest extra
  have onePer := planner.dialect.onePerColumn_iff values.assigns 0 values.entries
  have columns := members?_names named.columns (by simpa using named.nonempty)
  rw [List.map_map] at columns
  refine ⟨columns, _, _, (entriesLayout values.assigns values.entries).written planner.dialect 0,
    back, _, rfl, ?_, fun closing => ?_, fun row conflict update same => ?_,
    planner.dialect.members?_entries values.assigns 0 named.nonempty
      fun _ entry listed => named.columns _ (List.mem_map_of_mem listed),
    planner.dialect.length_entriesMembers _ _ _, onePer, fun scalars => onePer.2 ?_⟩
  · rw [← values.written_layout, ← rendered, ← leads.template_eq]
    rfl
  · have silent := leads.closed_off closing
    rw [alone (.inl silent), silent]
  · obtain ⟨none, conflictText⟩ := upserts row conflict update same
    rw [alone (.inr none)]
    exact conflictText row conflict update same
  · exact fun entry listed => Value.length_slots (scalars entry listed)

/-- Posts with tags, which get their identities from the table. -/
def taggedPosts : Schema := ⟨"posts", .i64, "id", ["id", "title", "tags"], none, none, []⟩

def taggedPlanner : Planner taggedPosts :=
  ⟨.empty, ⟨20, none, "created_at", "en", .postgres⟩, false⟩

def taggedPost (tags : Value) : Row taggedPosts :=
  ⟨(0 : Int64), [("title", .text "a"), ("tags", tags)], .empty⟩

theorem one_expression_per_column_iff_of_post :
    Planner.make taggedPosts .empty taggedPlanner.settings false = .ok taggedPlanner ∧
    (insert (taggedPost (.list []))).plan taggedPlanner =
      .ok [⟨"INSERT INTO posts (title, tags) VALUES ($1, NULL) RETURNING id", [.text "a"]⟩] ∧
    ∃ list back members, "INSERT INTO posts (title, tags) VALUES ($1, NULL) RETURNING id" =
        "INSERT INTO posts (title, tags) VALUES (" ++ list ++ ")" ++ back ∧
      members? list = some members ∧
      Dialect.postgres.OnePerColumn false (taggedPost (.list [])).values members := by
  have made : Planner.make taggedPosts .empty taggedPlanner.settings false = .ok taggedPlanner := rfl
  have planned : (insert (taggedPost (.list []))).plan taggedPlanner =
    .ok [⟨"INSERT INTO posts (title, tags) VALUES ($1, NULL) RETURNING id", [.text "a"]⟩] := rfl
  obtain ⟨_, statement, later, list, back, members, same, text, _, _, read, _, one, _⟩ :=
    one_expression_per_column_iff made planned rfl
  obtain ⟨rfl, _⟩ := List.cons.inj same
  refine ⟨made, planned, list, back, members, text, read, one.2 ?_⟩
  intro entry listed
  have written : entry ∈ [("title", Value.text "a"), ("tags", .list [])] := listed
  simp only [List.mem_cons, List.not_mem_nil, or_false] at written
  rcases written with rfl | rfl <;> rfl

/-- A list of two tags is written as two expressions, three for two columns. -/
theorem list_is_written_as_two_expressions :
    let post := taggedPost (.list [.text "x", .text "y"])
    (insert post).plan taggedPlanner =
      .ok [⟨"INSERT INTO posts (title, tags) VALUES (" ++ "$1, $2, $3" ++ ")" ++ " RETURNING id",
        [.text "a", .text "x", .text "y"]⟩] ∧
    ∃ members, members? "$1, $2, $3" = some members ∧
      ¬Dialect.postgres.OnePerColumn false post.values members := by
  refine ⟨rfl, _, rfl, fun one => ?_⟩
  exact absurd one.length_eq (by decide)

end PlannedCall

end DataAccess
