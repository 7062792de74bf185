import DataAccess.Proofs.Plan.Parts
import DataAccess.Proofs.Sql.Identifier

/-! The texts that go into the statements of a planner as they stand. Names are checked where a
statement is planned; what the specification says must have balanced quotes and no question
marks. -/
namespace DataAccess

open Sql

namespace IsPlainText

theorem of_nameChars {text : String} (name : ∀ c ∈ text.toList, isNameChar c) :
    IsPlainText text := by
  refine of_chars fun c member => ⟨?_, ?_⟩
  · by_contra quote
    have named := name c member
    simp only [isQuote, Bool.not_eq_false, Bool.or_eq_true, beq_iff_eq] at quote
    rcases quote with (rfl | rfl) | rfl <;> contradiction
  · rintro rfl
    exact absurd (name '?' member) (by decide)

theorem of_identifier {text : String} (named : isIdentifier text false) : IsPlainText text :=
  of_nameChars (isNameChar_of_isIdentifier named).2

theorem qualified {table column : String} (tableNamed : isIdentifier table false)
    (columnNamed : isIdentifier column false) : IsPlainText (table ++ "." ++ column) :=
  ((of_identifier tableNamed).append (by decide)).append (of_identifier columnNamed)

end IsPlainText

/-- Texts of a specification that go into statements as they stand. -/
structure Spec.IsPlain (spec : Spec) : Prop where
  projections : ∀ listing projection, spec.projectionFor listing = some projection →
    ∀ locale, ∀ field ∈ projection locale, IsPlainText field.sql
  joins : ∀ clause ∈ spec.joins, IsPlainText clause
  groupBy : ∀ column ∈ spec.groupBy, IsPlainText column
  defaultSort : ∀ column ∈ spec.defaultSort, IsPlainText column

/-- Texts of a query that go into statements as they stand. -/
structure Query.IsPlain (query : Query) : Prop where
  table : IsPlainText query.table
  joins : ∀ clause ∈ query.joins, IsPlainText clause
  groupBy : ∀ column ∈ query.groupBy, IsPlainText column
  order : ∀ term ∈ query.order, IsPlainText term.1

namespace Query

theorem IsPlain.tables {query : Query} (plain : query.IsPlain) : IsPlainText query.tables := by
  refine (IsPlainText.append (by decide) plain.table).append (IsPlainText.join ?_)
  simp only [List.forall_mem_map]
  exact fun clause member => IsPlainText.append (by decide) (plain.joins clause member)

theorem IsPlain.groupText {query : Query} (plain : query.IsPlain) :
    IsPlainText query.groupText := by
  unfold Query.groupText
  split
  · exact .empty
  · exact IsPlainText.append (by decide) (.intercalate (by decide) plain.groupBy)

theorem IsPlain.orderText {query : Query} (plain : query.IsPlain) :
    IsPlainText query.orderText := by
  unfold Query.orderText
  split
  · exact .empty
  · refine IsPlainText.append (by decide) (.intercalate (by decide) ?_)
    simp only [List.forall_mem_map]
    rintro ⟨column, direction⟩ member
    have sql : IsPlainText direction.sql := by cases direction <;> decide
    exact ((plain.order _ member).append (by decide)).append sql

theorem IsPlain.sort {query : Query} (plain : query.IsPlain) {column : String}
    (columnPlain : IsPlainText column) (direction : SortDirection) :
    (query.sort column direction).IsPlain where
  table := plain.table
  joins := plain.joins
  groupBy := plain.groupBy
  order := by
    intro term member
    rcases List.mem_append.1 member with member | member
    · exact plain.order term member
    · obtain rfl := List.mem_singleton.1 member
      exact columnPlain

theorem IsPlain.take {query : Query} (plain : query.IsPlain) (limit : UInt64) :
    (query.take limit).IsPlain := ⟨plain.table, plain.joins, plain.groupBy, plain.order⟩

theorem IsPlain.skip {query : Query} (plain : query.IsPlain) (offset : UInt64) :
    (query.skip offset).IsPlain := ⟨plain.table, plain.joins, plain.groupBy, plain.order⟩

theorem isPlain_ofTable {table : String} (plain : IsPlainText table) (dialect : Dialect) :
    (ofTable table dialect).IsPlain :=
  ⟨plain, by simp [ofTable], by simp [ofTable], by simp [ofTable]⟩

theorem plain_windowText (query : Query) : IsPlainText query.windowText := by
  unfold windowText
  refine IsPlainText.append ?_ ?_
  · split
    · exact IsPlainText.append (by decide) (.of_number _)
    · exact .empty
  · split
    · exact IsPlainText.append (by decide) (.of_number _)
    · exact .empty

end Query

namespace Shape

variable {query : Query} {restrictions : List Restriction}

theorem takesArguments_select (plain : query.IsPlain)
    (takes : ∀ restriction ∈ restrictions, restriction.TakesArguments) {columns : String}
    (columnsPlain : IsPlainText columns) : (select query restrictions columns).TakesArguments where
  head := (IsPlainText.append (by decide) columnsPlain).append plain.tables
  restrictions := takes
  tail := (plain.groupText.append plain.orderText).append query.plain_windowText

theorem takesArguments_count (plain : query.IsPlain)
    (takes : ∀ restriction ∈ restrictions, restriction.TakesArguments) :
    (count query restrictions).TakesArguments := by
  unfold count
  split
  · exact ⟨IsPlainText.append (by decide) plain.tables, takes, .empty⟩
  · exact ⟨IsPlainText.append (by decide) plain.tables, takes,
      plain.groupText.append (by decide)⟩

end Shape

theorem IsPlainText.columns {columns : List String}
    (named : ∀ column ∈ columns, isIdentifier column false) :
    IsPlainText (", ".intercalate columns) :=
  .intercalate (by decide) fun column member => .of_identifier (named column member)

theorem Projection.plain_render? {projection? : Option Projection} {locale whole : String}
    (wholePlain : IsPlainText whole)
    (projected : ∀ projection ∈ projection?, ∀ field ∈ projection locale, IsPlainText field.sql) :
    IsPlainText ((render? projection? locale).getD whole) := by
  unfold render?
  cases projection? with
  | none => exact wholePlain
  | some projection =>
    cases fields : projection locale with
    | nil => simpa [fields] using wholePlain
    | cons first rest =>
      simp only [Option.map_some, fields, Option.getD_some]
      refine .intercalate (by decide) ?_
      simp only [List.forall_mem_map]
      rw [← fields]
      exact projected projection rfl

theorem Restriction.takesArguments_ofScope {condition : Option Condition} {scope : Option String}
    (given : ∀ each ∈ condition, ∀ leaf ∈ each.leaves, leaf.TakesArguments)
    (marker : ∀ column ∈ scope, IsPlainText column) :
    ∀ restriction ∈ ofScope condition scope, restriction.TakesArguments := by
  intro restriction member
  rcases List.mem_append.1 member with member | member
  · obtain ⟨each, present, rfl⟩ := Option.map_eq_some_iff.1 (Option.mem_toList.1 member)
    exact given each present
  · obtain ⟨column, present, rfl⟩ := Option.map_eq_some_iff.1 (Option.mem_toList.1 member)
    exact marker column present

namespace Row

variable {schema : Schema} (row : Row schema)

theorem isClosed_valuesLayout : row.valuesLayout.IsClosed := by
  refine Layout.IsClosed.join (by decide) ?_
  simp only [List.forall_mem_map]
  exact fun entry _ => rfl

theorem isClosed_insertLayout (tableNamed : isIdentifier schema.table false)
    (named : ∀ column ∈ row.values.map Prod.fst, isIdentifier column false) :
    row.insertLayout.IsClosed := by
  refine Layout.isClosed_text_cons ?_ (row.isClosed_valuesLayout.append (by decide))
  exact (((IsPlainText.append (by decide) (.of_identifier tableNamed)).append (by decide)).append
    (.columns named)).append (by decide)

theorem takesArguments_conflictRestrictions {conflict : List String}
    (named : ∀ column ∈ conflict, isIdentifier column false) :
    ∀ restriction ∈ row.conflictRestrictions conflict, restriction.TakesArguments := by
  intro restriction member
  obtain ⟨column, listed, present⟩ := List.mem_filterMap.1 member
  obtain ⟨value, _, rfl⟩ := Option.map_eq_some_iff.1 present
  intro leaf inside
  obtain rfl := List.mem_singleton.1 inside
  rintro _ ⟨⟩
  exact .of_identifier (named column listed)

end Row

theorem Schema.isClosed_updateLayout {schema : Schema}
    (tableNamed : isIdentifier schema.table false) {assignments : List (String × Value)}
    (named : ∀ column ∈ assignments.map Prod.fst, isIdentifier column false) :
    (schema.updateLayout assignments).IsClosed := by
  refine Layout.isClosed_text_cons
    ((IsPlainText.append (by decide) (.of_identifier tableNamed)).append (by decide))
    (.join (by decide) ?_)
  simp only [List.forall_mem_map] at named ⊢
  exact fun assignment member => Layout.isClosed_text_cons
    ((IsPlainText.of_identifier (named assignment member)).append (by decide)) rfl

theorem Schema.takesArguments_deleteShape (schema : Schema)
    (tableNamed : isIdentifier schema.table false)
    (markerNamed : ∀ marker ∈ schema.softDelete, isIdentifier marker false)
    {condition : Option Condition}
    (given : ∀ each ∈ condition, ∀ leaf ∈ each.leaves, leaf.TakesArguments) :
    (schema.deleteShape condition).TakesArguments := by
  have table : IsPlainText schema.table := .of_identifier tableNamed
  unfold deleteShape
  split
  · next marker declared =>
    have named := markerNamed marker declared
    have head := ((IsPlainText.append (by decide : IsPlainText "UPDATE ") table).append
      (by decide : IsPlainText " SET ")).append (.of_identifier named)
    refine ⟨head.append (by decide), Restriction.takesArguments_ofScope given ?_, .empty⟩
    rintro _ ⟨⟩
    exact .qualified tableNamed named
  · exact ⟨IsPlainText.append (by decide) table,
      Restriction.takesArguments_ofScope given (by simp), .empty⟩

theorem IdSource.plain_returningText (source : IdSource) {idColumn : String}
    (named : isIdentifier idColumn false) : IsPlainText (source.returningText idColumn) := by
  cases source with
  | returning => exact IsPlainText.append (by decide) (.of_identifier named)
  | _ => exact .empty

namespace Planner

variable {schema : Schema} {planner : Planner schema}

theorem isPlain_visible (tableNamed : isIdentifier schema.table false)
    (spec : planner.spec.IsPlain) (condition : Option Condition) :
    (planner.visible condition).IsPlain := by
  have same : (planner.visible condition).table = schema.table ∧
      (planner.visible condition).joins = planner.spec.joins ∧
      (planner.visible condition).groupBy = [] ∧ (planner.visible condition).order = [] := by
    unfold visible Query.restrict
    cases condition <;> cases planner.scope? <;> exact ⟨rfl, rfl, rfl, rfl⟩
  constructor
  · exact same.1 ▸ .of_identifier tableNamed
  · exact same.2.1 ▸ spec.joins
  · simp [same.2.2.1]
  · simp [same.2.2.2]

theorem isPlain_listingRows (tableNamed : isIdentifier schema.table false)
    (spec : planner.spec.IsPlain) (condition : Option Condition) :
    (planner.listingRows condition).IsPlain :=
  have visible := isPlain_visible tableNamed spec condition
  ⟨visible.table, visible.joins, spec.groupBy, visible.order⟩

theorem plain_selectList (tableNamed : isIdentifier schema.table false)
    (spec : planner.spec.IsPlain) (listing : Bool) (locale : String) :
    IsPlainText (planner.selectList listing locale) := by
  have whole : IsPlainText (if planner.spec.joins.isEmpty then "*" else schema.table ++ ".*") := by
    split
    · decide
    · exact (IsPlainText.of_identifier tableNamed).append (by decide)
  exact Projection.plain_render? whole fun projection chosen =>
    spec.projections listing projection chosen locale

theorem plain_listingOrder (spec : planner.spec.IsPlain)
    (settings : IsPlainText planner.settings.defaultSort) (request : ListingRequest) :
    IsPlainText (planner.listingOrder request).column := by
  unfold listingOrder SortTerm.resolve
  cases requested : SortTerm.requestedColumn? request.sortKey with
  | some column => exact .of_identifier (Option.filter_eq_some_iff.1 requested).2
  | none =>
    simp only [Option.orElse_none]
    cases declared : planner.spec.defaultSort.filter (· ≠ "") with
    | some column => exact spec.defaultSort column (Option.filter_eq_some_iff.1 declared).1
    | none => exact settings

theorem isPlain_listingQuery (tableNamed : isIdentifier schema.table false)
    (spec : planner.spec.IsPlain) (settings : IsPlainText planner.settings.defaultSort)
    (condition : Option Condition) (request : ListingRequest) (counted : Bool) :
    (planner.listingQuery condition request counted).IsPlain := by
  have sorted := (isPlain_listingRows tableNamed spec condition).sort
    (plain_listingOrder spec settings request) (planner.listingOrder request).direction
  unfold listingQuery
  cases planner.window? request counted with
  | none => exact sorted
  | some page => exact (sorted.take page.limit).skip page.offset

theorem takesArguments_firstShape (tableNamed : isIdentifier schema.table false)
    (spec : planner.spec.IsPlain) {condition : Option Condition} {id : String}
    (idNamed : isIdentifier id false)
    (takes : ∀ restriction ∈ planner.restrictions condition, restriction.TakesArguments)
    (locale : String) : (planner.firstShape condition id locale).TakesArguments :=
  Shape.takesArguments_select
    (((isPlain_visible tableNamed spec condition).sort (.qualified tableNamed idNamed) .asc).take 1)
    takes (plain_selectList tableNamed spec false locale)

theorem plain_conflictText (source : IdSource) {conflict targets : List String}
    (idNamed : isIdentifier schema.idColumn false)
    (conflictNamed : ∀ column ∈ conflict, isIdentifier column false)
    (targetsNamed : ∀ column ∈ targets, isIdentifier column false) :
    IsPlainText (planner.conflictText source conflict targets) := by
  have id : IsPlainText schema.idColumn := .of_identifier idNamed
  have column {name : String} (listed : name ∈ targets) : IsPlainText name :=
    .of_identifier (targetsNamed name listed)
  unfold conflictText
  split
  · refine IsPlainText.append (by decide) (.intercalate (by decide) ?_)
    intro text member
    rcases List.mem_append.1 member with member | member
    · obtain ⟨name, listed, rfl⟩ := List.mem_map.1 member
      exact (((column listed).append (by decide)).append (column listed)).append (by decide)
    · split at member
      · obtain rfl := List.mem_singleton.1 member
        exact ((id.append (by decide)).append id).append (by decide)
      · contradiction
  · have assignments : IsPlainText
        (", ".intercalate (targets.map fun name => name ++ " = excluded." ++ name)) := by
      refine .intercalate (by decide) ?_
      simp only [List.forall_mem_map]
      exact fun name listed => ((column listed).append (by decide)).append (column listed)
    exact ((((IsPlainText.append (by decide) (.columns conflictNamed)).append (by decide)).append
      assignments).append (source.plain_returningText idNamed))

theorem takesArguments_restrictions (tableNamed : isIdentifier schema.table false)
    (markerNamed : ∀ marker ∈ schema.softDelete, isIdentifier marker false)
    {condition : Option Condition}
    (given : ∀ each ∈ condition, ∀ leaf ∈ each.leaves, leaf.TakesArguments) :
    ∀ restriction ∈ planner.restrictions condition, restriction.TakesArguments := by
  refine Restriction.takesArguments_ofScope given fun column marked => ?_
  unfold scope? at marked
  split at marked
  · contradiction
  · obtain ⟨marker, declared, rfl⟩ := Option.map_eq_some_iff.1 marked
    exact .qualified tableNamed (markerNamed marker declared)

theorem takesArguments_guardedShape (tableNamed : isIdentifier schema.table false)
    (idNamed : isIdentifier schema.idColumn false) {condition : Option Condition}
    (takes : ∀ restriction ∈ planner.restrictions condition, restriction.TakesArguments)
    {row : Row schema} (named : ∀ column ∈ row.values.map Prod.fst, isIdentifier column false)
    (source : IdSource) : (planner.guardedShape condition row source).TakesArguments := by
  have tables : IsPlainText planner.wholeTable.tables :=
    (Query.isPlain_ofTable (.of_identifier tableNamed) _).tables
  have table : IsPlainText schema.table := .of_identifier tableNamed
  have columns : IsPlainText (", ".intercalate (row.values.map Prod.fst)) := .columns named
  have onConflict : IsPlainText
      (if planner.dialect = .postgres then " ON CONFLICT DO NOTHING" else "") := by
    split <;> decide
  have tail := (IsPlainText.append (by decide : IsPlainText ")") onConflict).append
    (source.plain_returningText idNamed)
  have head {verb dual : String} (verbPlain : IsPlainText verb) (dualPlain : IsPlainText dual) :
      Layout.IsClosed (.text (verb ++ " INTO " ++ schema.table ++ " (" ++
        ", ".intercalate (row.values.map Prod.fst) ++ ") SELECT ") :: row.valuesLayout ++
        [.text (dual ++ " WHERE NOT EXISTS (SELECT 1" ++ planner.wholeTable.tables)]) := by
    refine Layout.isClosed_text_cons ?_ (row.isClosed_valuesLayout.append ?_)
    · exact ((((verbPlain.append (by decide)).append table).append (by decide)).append
        columns).append (by decide)
    · exact (dualPlain.append (by decide)).append tables
  have insert : IsPlainText "INSERT" := by decide
  have insertIgnore : IsPlainText "INSERT IGNORE" := by decide
  unfold guardedShape
  by_cases mysql : planner.dialect = .mysql
  · rw [if_pos mysql]
    exact ⟨head insertIgnore (by decide), takes, tail⟩
  · rw [if_neg mysql]
    exact ⟨head insert .empty, takes, tail⟩

end Planner

end DataAccess
