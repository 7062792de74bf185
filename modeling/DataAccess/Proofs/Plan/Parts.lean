import DataAccess.Plan.Reading
import DataAccess.Plan.Writing
import DataAccess.Proofs.Plan.Shape
import DataAccess.Proofs.Sequence

/-! The parts of the statements of a planner, and what its checks give about the names in them. -/
namespace DataAccess

theorem isIdentifier_of_required {text : String} {kind : IdentifierKind}
    (accepted : requireIdentifier text kind = .ok ()) : isIdentifier text false := by
  unfold requireIdentifier checkIdentifier at accepted
  split at accepted
  · assumption
  · contradiction

/-- What a planner is made of, and what making it has checked. -/
theorem Planner.make_eq {schema : Schema} {spec : Spec} {settings : Settings} {unscoped : Bool}
    {planner : Planner schema} (made : make schema spec settings unscoped = .ok planner) :
    planner = ⟨spec, settings, unscoped || spec.unscoped⟩ ∧ isIdentifier schema.table false ∧
      ∀ marker ∈ schema.softDelete, isIdentifier marker false := by
  unfold make at made
  obtain ⟨_, table, made⟩ := exists_of_bind made
  refine ⟨?_, isIdentifier_of_required table, ?_⟩
  · split at made
    · obtain ⟨_, _, made⟩ := exists_of_bind made
      exact (Except.ok.inj made).symm
    · exact (Except.ok.inj made).symm
  · intro marker marked
    rw [Option.mem_def.1 marked] at made
    obtain ⟨_, column, _⟩ := exists_of_bind made
    exact isIdentifier_of_required column

theorem Schema.identityColumn_eq {schema : Schema} {id : String}
    (found : schema.identityColumn = .ok id) :
    id = schema.idColumn ∧ isIdentifier schema.idColumn false := by
  unfold identityColumn at found
  split at found
  · next named =>
    split at found
    · exact ⟨(Except.ok.inj found).symm, named⟩
    · contradiction
  · contradiction

theorem identifiers_of_requireColumns {columns : List String}
    (accepted : requireColumns columns = .ok ()) :
    ∀ column ∈ columns, isIdentifier column false := by
  induction columns with
  | nil => simp
  | cons column rest ih =>
    obtain ⟨_, named, accepted⟩ := exists_of_bind accepted
    exact List.forall_mem_cons.2 ⟨isIdentifier_of_required named, ih accepted⟩

theorem Row.identifiers_of_writtenColumns {schema : Schema} {row : Row schema}
    {columns : List String} (written : row.writtenColumns = .ok columns) :
    columns = row.values.map Prod.fst ∧ ∀ column ∈ columns, isIdentifier column false := by
  unfold writtenColumns at written
  split at written
  · contradiction
  · obtain ⟨_, accepted, written⟩ := exists_of_bind written
    obtain rfl := Except.ok.inj written
    exact ⟨rfl, identifiers_of_requireColumns accepted⟩

/-- The columns that a conflict assigns are among the written, the deciding and the given ones. -/
theorem Schema.identifiers_of_upsertTargets (schema : Schema)
    {columns conflict targets : List String}
    (written : ∀ column ∈ columns, isIdentifier column false)
    (deciding : ∀ column ∈ conflict, isIdentifier column false)
    (given : ∀ column ∈ targets, isIdentifier column false) :
    ∀ column ∈ schema.upsertTargets columns conflict targets, isIdentifier column false := by
  intro column member
  have assigned : ∀ name ∈ if targets.isEmpty then
      columns.filter fun name => name ∉ conflict ∧ name ≠ schema.idColumn
      else targets, isIdentifier name false := by
    split
    · exact fun name listed => written name (List.mem_filter.1 listed).1
    · exact given
  simp only [upsertTargets] at member
  generalize (if targets.isEmpty then
    columns.filter fun name => name ∉ conflict ∧ name ≠ schema.idColumn else targets) = chosen
    at assigned member
  split at member
  · exact deciding column (List.mem_of_mem_take member)
  · exact assigned column member

/-- The restrictions to the rows that a written row conflicts with. -/
def Row.conflictRestrictions {schema : Schema} (row : Row schema) (conflict : List String) :
    List Restriction :=
  conflict.filterMap fun column =>
    (row.values.lookup column).map fun value => .holds (.eq column value)

/-- The head of an update, with the value of each column in place. -/
def Schema.updateLayout (schema : Schema) (assignments : List (String × Value)) : Layout :=
  .text ("UPDATE " ++ schema.table ++ " SET ") :: Layout.join ", "
    (assignments.map fun assignment => [.text (assignment.1 ++ " = "), .argument assignment.2])

def Row.valuesLayout {schema : Schema} (row : Row schema) : Layout :=
  .join ", " (row.values.map fun entry => [.argument entry.2])

/-- The head of an insertion, with the value of each column in place. -/
def Row.insertLayout {schema : Schema} (row : Row schema) : Layout :=
  .text ("INSERT INTO " ++ schema.table ++ " (" ++ ", ".intercalate (row.values.map Prod.fst) ++
      ") VALUES (") :: row.valuesLayout ++ [.text ")"]

theorem Schema.updateHead_eq (schema : Schema) (assignments : List (String × Value)) :
    schema.updateHead assignments = (schema.updateLayout assignments).fragment := by
  have assignment (entry : String × Value) :
      Layout.fragment [.text (entry.1 ++ " = "), .argument entry.2] =
        ⟨entry.1 ++ " = ?", [entry.2]⟩ := by
    simp [String.append_assoc]
  simp [updateHead, updateLayout, Layout.fragment_join, Function.comp_def, assignment,
    List.flatMap_map, ← List.map_eq_flatMap]

theorem Row.fragment_valuesLayout {schema : Schema} (row : Row schema) :
    row.valuesLayout.fragment = ⟨placeholders row.values.length, row.values.map Prod.snd⟩ := by
  simp [valuesLayout, Layout.fragment_join, placeholders, Function.comp_def, List.flatMap_map,
    ← List.map_eq_flatMap]

theorem Row.insertHead_eq {schema : Schema} (row : Row schema) :
    row.insertHead = row.insertLayout.fragment := by
  unfold insertHead insertLayout
  simp [fragment_valuesLayout, String.append_assoc]

theorem Row.insertion_eq {schema : Schema} (row : Row schema) (tail : String) :
    (⟨row.insertHead.sql ++ tail, row.insertHead.args⟩ : Fragment) =
      Shape.template ⟨row.insertLayout, [], tail⟩ := by
  rw [insertHead_eq]
  rfl

/-- A deletion: of the rows, or by their marker if the entity has one. -/
def Schema.deleteShape (schema : Schema) (condition : Option Condition) : Shape :=
  match schema.softDelete with
  | some marker =>
    ⟨[.text ("UPDATE " ++ schema.table ++ " SET " ++ marker ++ " = CURRENT_TIMESTAMP")],
      Restriction.ofScope condition (some (schema.qualified marker)), ""⟩
  | none => ⟨[.text ("DELETE FROM " ++ schema.table)], Restriction.ofScope condition none, ""⟩

theorem Query.selectTemplate_least {query : Query} (ungrouped : query.groupBy = [])
    (unordered : query.order = []) (unskipped : query.offset = none) (columns column : String) :
    ((query.sort column .asc).take 1).selectTemplate columns =
      ⟨"SELECT " ++ columns ++ query.source.sql ++ (" ORDER BY " ++ column ++ " ASC LIMIT 1"),
        query.source.args⟩ := by
  have source : ((query.sort column .asc).take 1).source = query.source := rfl
  have window : " ASC" ++ (" LIMIT " ++ Nat.repr 1) = " ASC LIMIT 1" := rfl
  rw [selectTemplate, source]
  simp [groupText, orderText, windowText, sort, take, ungrouped, unordered, unskipped, window,
    SortDirection.sql, String.append_assoc]

/-- What stands behind the predicate in a select of the row with the least identity. -/
def Schema.leastRowText (schema : Schema) : String :=
  " ORDER BY " ++ schema.qualified schema.idColumn ++ " ASC LIMIT 1"

namespace Planner

variable {schema : Schema} (planner : Planner schema)

def restrictions (planner : Planner schema) (condition : Option Condition) : List Restriction :=
  Restriction.ofScope condition planner.scope?

def firstShape (condition : Option Condition) (id locale : String) : Shape :=
  .select (((planner.visible condition).sort (schema.qualified id) .asc).take 1)
    (planner.restrictions condition) (planner.selectList false locale)

/-- The insertion that is guarded by a select of visible rows. -/
def guardedShape (condition : Option Condition) (row : Row schema) (source : IdSource) : Shape :=
  let (verb, dual) := if planner.dialect = .mysql then ("INSERT IGNORE", " FROM DUAL")
    else ("INSERT", "")
  let onConflict := if planner.dialect = .postgres then " ON CONFLICT DO NOTHING" else ""
  ⟨.text (verb ++ " INTO " ++ schema.table ++ " (" ++
        ", ".intercalate (row.values.map Prod.fst) ++ ") SELECT ") ::
      row.valuesLayout ++
        [.text (dual ++ " WHERE NOT EXISTS (SELECT 1" ++ planner.wholeTable.tables)],
    planner.restrictions condition,
    ")" ++ onConflict ++ source.returningText schema.idColumn⟩

end Planner

namespace Planner

variable {schema : Schema} (planner : Planner schema)

theorem predicate?_visible (condition : Option Condition) :
    (planner.visible condition).predicate? =
      Restriction.predicate? (planner.restrictions condition) :=
  Query.predicate?_restrict _ rfl condition planner.scope?

theorem predicate?_guardQuery (condition : Option Condition) :
    (planner.guardQuery condition).predicate? =
      Restriction.predicate? (planner.restrictions condition) :=
  Query.predicate?_restrict _ rfl condition planner.scope?

theorem dialect_visible (condition : Option Condition) :
    (planner.visible condition).dialect = planner.dialect := by
  unfold visible Query.restrict
  cases condition <;> cases planner.scope? <;> rfl

theorem select_visible (query : Query) (condition : Option Condition)
    (clauses : query.clauses = (planner.visible condition).clauses)
    (dialect : query.dialect = planner.dialect) (columns : String) :
    query.select columns =
      (Shape.select query (planner.restrictions condition) columns).statement planner.dialect := by
  rw [Shape.statement_select, dialect]
  rw [← predicate?_visible, Query.predicate?, Query.predicate?, Query.hasClauses, Query.hasClauses,
    clauses]

theorem mutation_eq (head : Layout) (condition : Option Condition) (scope : Option String) :
    planner.mutation head.fragment condition scope =
      Shape.template ⟨head, Restriction.ofScope condition scope, ""⟩ := by
  simp only [mutation, Query.predicate?_restrict planner.wholeTable rfl, Shape.template]
  cases Restriction.predicate? (Restriction.ofScope condition scope) <;> simp

theorem mutation_text (words : String) (condition : Option Condition) (scope : Option String) :
    planner.mutation ⟨words, []⟩ condition scope =
      Shape.template ⟨[.text words], Restriction.ofScope condition scope, ""⟩ := by
  rw [← mutation_eq, Layout.fragment_text, Layout.fragment_nil, String.append_empty]

theorem guardedInsert_eq (condition : Option Condition) (row : Row schema) (source : IdSource) :
    planner.guardedInsert condition row source =
      (planner.guardedShape condition row source).template := by
  have tables : (planner.guardQuery condition).tables = planner.wholeTable.tables := by
    unfold guardQuery Query.restrict
    cases condition <;> cases planner.scope? <;> rfl
  unfold Query.tables at tables
  simp only [guardedInsert, guardedShape, Shape.template, Query.source,
    planner.predicate?_guardQuery, Query.tables, tables]
  cases Restriction.predicate? (planner.restrictions condition) <;>
    simp [row.fragment_valuesLayout, String.append_assoc]

theorem conflictQuery_eq (row : Row schema) {conflict : List String} {query : Query}
    (found : planner.conflictQuery row conflict = .ok query) :
    query = (row.conflictRestrictions conflict).foldl Query.add planner.wholeTable := by
  unfold conflictQuery at found
  generalize planner.wholeTable = base at found ⊢
  induction conflict generalizing base with
  | nil => exact (Except.ok.inj found).symm
  | cons column rest ih =>
    rw [List.foldlM_cons] at found
    cases written : row.values.lookup column with
    | none => simp [written, bind, Except.bind] at found
    | some value =>
      simp only [written] at found
      simp only [Row.conflictRestrictions, List.filterMap_cons, written, Option.map_some]
      exact ih _ found

theorem identity_of_idSource {planner : Planner schema} {columns : List String}
    {row : Row schema} {source : IdSource} (found : planner.idSource columns row = .ok source) :
    isIdentifier schema.idColumn false := by
  obtain ⟨id, identity, _⟩ := exists_of_bind found
  exact (Schema.identityColumn_eq identity).2

theorem idSource_ne_lookup {columns : List String} {row : Row schema} {source : IdSource}
    (found : planner.idSource columns row = .ok source) (statement : Statement) :
    source ≠ .lookup statement := by
  rintro rfl
  unfold idSource at found
  obtain ⟨id, _, found⟩ := exists_of_bind found
  split at found
  · cases found
  · split at found <;> cases found

theorem lookup_eq {columns conflict : List String} {row : Row schema} {statement : Statement}
    {id : String} (identity : schema.identityColumn = .ok id)
    (source : planner.upsertIdSource columns conflict row = .ok (.lookup statement)) :
    statement = (Shape.select planner.wholeTable (row.conflictRestrictions conflict)
      id).statement planner.dialect := by
  simp only [upsertIdSource, identity, bind, Except.bind, pure, Except.pure] at source
  split at source
  · exact absurd rfl (planner.idSource_ne_lookup source statement)
  · split at source
    · cases source
    · split at source
      · cases source
      · next query found =>
        obtain rfl := IdSource.lookup.inj (Except.ok.inj source)
        rw [planner.conflictQuery_eq row found,
          Shape.statement_select (Query.predicate?_foldl_add rfl _), Query.foldl_add]
        rfl

theorem first_eq (condition : Option Condition) (locale : String) :
    planner.first condition locale = do
      let id ← schema.identityColumn
      return (planner.firstShape condition id locale).statement planner.dialect := by
  unfold first
  refine bind_congr fun id => congrArg Except.ok ?_
  exact planner.select_visible
    (((planner.visible condition).sort (schema.qualified id) .asc).take 1) condition rfl
    (planner.dialect_visible condition) (planner.selectList false locale)

/-- A select of one row has the predicate of the query behind its columns and its table, and takes the
row with the least identity. -/
theorem first_eq_select {planner : Planner schema} {condition : Option Condition} {locale : String}
    {select : Statement} (planned : planner.first condition locale = .ok select) :
    select = Fragment.render
      ⟨"SELECT " ++ planner.selectList false locale ++ (planner.visible condition).source.sql ++
        schema.leastRowText, (planner.visible condition).source.args⟩ planner.dialect := by
  obtain ⟨_, identity, planned⟩ := exists_of_bind planned
  obtain ⟨rfl, _⟩ := Schema.identityColumn_eq identity
  obtain rfl := Except.ok.inj planned
  obtain ⟨ungrouped, unordered, unskipped⟩ : (planner.visible condition).groupBy = [] ∧
      (planner.visible condition).order = [] ∧ (planner.visible condition).offset = none := by
    unfold visible Query.restrict
    cases condition <;> cases planner.scope? <;> exact ⟨rfl, rfl, rfl⟩
  rw [← planner.dialect_visible condition, Schema.leastRowText,
    ← Query.selectTemplate_least ungrouped unordered unskipped]
  rfl

end Planner

end DataAccess
