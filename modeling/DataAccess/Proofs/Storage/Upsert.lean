import DataAccess.Proofs.Plan.Conflict
import DataAccess.Proofs.Storage.Tuple

/-! The row that an upsert stores, and its identity. A row is inserted, or merged into the stored row
that it conflicts with; then it has the identity of that row. Where the identity comes from depends on
the dialect and on the columns that are written and that decide the conflict. -/
namespace DataAccess

open Sql

namespace Planner

variable {schema : Schema} {planner : Planner schema} {row : Row schema}
  {columns conflict update : List String}

/-- Where an insertion learns the identity of its row, and when. -/
inductive Learns (planner : Planner schema) (row : Row schema) (columns : List String) :
    IdSource → Prop
  | known (written : schema.idColumn ∈ columns) :
    Learns planner row columns (.known (schema.idValue row.id))
  | returning (unwritten : schema.idColumn ∉ columns) (returns : planner.dialect ≠ .mysql) :
    Learns planner row columns .returning
  | lastInsertId (unwritten : schema.idColumn ∉ columns) (keeps : planner.dialect = .mysql) :
    Learns planner row columns .lastInsertId

/-- Where an upsert learns the identity of the stored row, and when. -/
inductive Identifies (planner : Planner schema) (row : Row schema) (columns conflict : List String) :
    IdSource → Prop
  | known (written : schema.idColumn ∈ columns) (deciding : schema.idColumn ∈ conflict) :
    Identifies planner row columns conflict (.known (schema.idValue row.id))
  | returning (other : schema.idColumn ∉ columns ∨ schema.idColumn ∉ conflict)
    (returns : planner.dialect ≠ .mysql) : Identifies planner row columns conflict .returning
  | lastInsertId (unwritten : schema.idColumn ∉ columns) (keeps : planner.dialect = .mysql) :
    Identifies planner row columns conflict .lastInsertId
  | lookup {query : Query} {statement : Statement} (written : schema.idColumn ∈ columns)
    (undecided : schema.idColumn ∉ conflict) (silent : planner.dialect = .mysql)
    (found : planner.conflictQuery row conflict = .ok query)
    (selects : statement = query.select schema.idColumn) :
    Identifies planner row columns conflict (.lookup statement)

theorem Identifies.known_iff {source : IdSource}
    (identifies : planner.Identifies row columns conflict source) :
    (∃ id, source = .known id) ↔ schema.idColumn ∈ columns ∧ schema.idColumn ∈ conflict := by
  cases identifies with
  | known written deciding => exact iff_of_true ⟨_, rfl⟩ ⟨written, deciding⟩
  | returning other => exact iff_of_false nofun fun both => other.elim (· both.1) (· both.2)
  | lastInsertId unwritten => exact iff_of_false nofun fun both => unwritten both.1
  | lookup _ undecided => exact iff_of_false nofun fun both => undecided both.2

theorem learns_of_idSource {source : IdSource}
    (found : planner.idSource columns row = .ok source) : planner.Learns row columns source := by
  obtain ⟨_, identity, found⟩ := exists_of_bind found
  obtain ⟨rfl, _⟩ := Schema.identityColumn_eq identity
  split at found
  case isTrue written =>
    obtain rfl := Except.ok.inj found
    exact .known written
  case isFalse unwritten =>
    split at found
    case isTrue returns =>
      obtain rfl := Except.ok.inj found
      exact .returning unwritten (of_decide_eq_true returns)
    case isFalse silent =>
      obtain rfl := Except.ok.inj found
      exact .lastInsertId unwritten (by simpa [Dialect.supportsReturning] using silent)

theorem identifies_of_upsertIdSource {source : IdSource}
    (found : planner.upsertIdSource columns conflict row = .ok source) :
    planner.Identifies row columns conflict source := by
  obtain ⟨_, identity, found⟩ := exists_of_bind found
  obtain ⟨rfl, _⟩ := Schema.identityColumn_eq identity
  split at found
  case isTrue other =>
    cases learns_of_idSource found with
    | known written => exact .known written (other.resolve_left (not_not.2 written))
    | returning unwritten returns => exact .returning (.inl unwritten) returns
    | lastInsertId unwritten keeps => exact .lastInsertId unwritten keeps
  case isFalse other =>
    obtain ⟨written, undecided⟩ := not_or.1 other
    split at found
    case isTrue returns =>
      obtain rfl := Except.ok.inj found
      exact .returning (.inr undecided) (of_decide_eq_true returns)
    case isFalse silent =>
      obtain ⟨query, asked, found⟩ := exists_of_bind found
      obtain rfl := Except.ok.inj found
      exact .lookup (not_not.1 written) undecided
        (by simpa [Dialect.supportsReturning] using silent) asked rfl

/-- The select that looks up the identity of a row by the values that it has in some columns. -/
structure LooksUpBy (planner : Planner schema) (row : Row schema) (conflict : List String)
    (values : List Value) (select : Statement) : Prop where
  written : List.Forall₂ (fun column value => row.values.lookup column = some value) conflict values
  statement : select = Fragment.render
    ⟨"SELECT " ++ schema.idColumn ++ " FROM " ++ schema.table ++ " WHERE " ++
      " AND ".intercalate (conflict.map (· ++ " = ?")), values⟩ planner.dialect

/-- An upsert that has been planned, with the text of its conflict and the source of the identity. -/
structure Upserts (planner : Planner schema) (row : Row schema) (conflict targets : List String)
    (write : Write) : Prop where
  statement : write.statement = Fragment.render
    ⟨row.insertHead.sql ++ planner.conflictText write.id conflict targets, row.insertHead.args⟩
    planner.dialect
  identifies : planner.Identifies row (row.values.map Prod.fst) conflict write.id
  looksUp : ∀ select, write.id = .lookup select →
    ∃ values, planner.LooksUpBy row conflict values select
  written : ∀ column ∈ row.values.map Prod.fst, isIdentifier column false
  deciding : ∀ column ∈ conflict, isIdentifier column false

/-- The clause that a column equals a value. -/
def equalClause (column : String) (value : Value) : Clause := ⟨⟨column ++ " = ?", [value]⟩, false⟩

theorem ofCondition?_eq (column : String) (value : Value) :
    Clause.ofCondition? (.eq column value) = some (equalClause column value) := by
  have text : column ++ " " ++ "=" ++ " ?" = column ++ " = ?" := by
    simp only [String.append_assoc]
    rfl
  have last : (column ++ " = ?").toList.getLast? = some '?' := by
    rw [String.toList_append, List.getLast?_append]
    rfl
  have nonempty : column ++ " = ?" ≠ "" := by
    intro empty
    rw [empty] at last
    cases last
  have spoken : ¬(column ++ " = ?" = "" ∨ column ++ " = ?" = "()") := by
    rintro (empty | parentheses)
    · exact nonempty empty
    · rw [parentheses] at last
      cases last
  have compiled : (Condition.eq column value).compile = ⟨column ++ " = ?", [value]⟩ := by
    change Fragment.orBlank ⟨column ++ " " ++ "=" ++ " ?", [value]⟩ = _
    rw [text, Fragment.orBlank, if_neg spoken]
  rw [Clause.ofCondition?, compiled]
  simp [Fragment.isBlank, nonempty]
  rfl

theorem exists_of_conflictQuery {query : Query}
    (found : planner.conflictQuery row conflict = .ok query) :
    ∃ values,
      List.Forall₂ (fun column value => row.values.lookup column = some value) conflict values ∧
      query = { planner.wholeTable with
        clauses := planner.wholeTable.clauses ++
          List.zipWith equalClause conflict values } := by
  unfold conflictQuery at found
  generalize planner.wholeTable = base at found ⊢
  induction conflict generalizing base with
  | nil =>
    obtain rfl := Except.ok.inj found
    exact ⟨[], .nil, by simp⟩
  | cons column rest ih =>
    rw [List.foldlM_cons] at found
    obtain ⟨next, first, found⟩ := exists_of_bind found
    cases written : row.values.lookup column with
    | none =>
      rw [written] at first
      cases first
    | some value =>
      rw [written] at first
      obtain rfl := Except.ok.inj first
      obtain ⟨values, lookups, rfl⟩ := ih _ found
      refine ⟨value :: values, .cons written lookups, ?_⟩
      simp [Query.filter, ofCondition?_eq]

theorem looksUpBy_of_conflictQuery {query : Query} (deciding : conflict ≠ [])
    (found : planner.conflictQuery row conflict = .ok query) :
    ∃ values, planner.LooksUpBy row conflict values (query.select schema.idColumn) := by
  obtain ⟨values, written, rfl⟩ := exists_of_conflictQuery found
  refine ⟨values, written, ?_⟩
  have stated (wrap : Bool) :
      (List.zipWith equalClause conflict values).map (·.sql wrap) = conflict.map (· ++ " = ?") ∧
      (List.zipWith equalClause conflict values).flatMap (·.fragment.args) = values := by
    clear deciding found
    induction written with
    | nil => exact ⟨rfl, rfl⟩
    | cons _ _ ih =>
      have text (column : String) (value : Value) :
          (equalClause column value).sql wrap = column ++ " = ?" := by
        simp [equalClause, Clause.sql]
      have bound (column : String) (value : Value) :
          (equalClause column value).fragment.args = [value] := rfl
      simp [text, bound, ih]
  have conjunction : Clause.conjunction (List.zipWith equalClause conflict values) =
      ⟨" AND ".intercalate (conflict.map (· ++ " = ?")), values⟩ := by
    rw [Clause.conjunction, (stated _).1, (stated false).2]
  have present : List.zipWith equalClause conflict values ≠ [] := by
    cases written with
    | nil => contradiction
    | cons => exact List.cons_ne_nil _ _
  unfold Query.select
  congr 1
  simp [Query.selectTemplate, Query.source, Query.predicate?, Query.hasClauses, present,
    conjunction, wholeTable, Query.ofTable, Query.groupText, Query.orderText, Query.windowText,
    String.append_assoc, -List.zipWith_eq_nil_iff]

theorem upserts_of_upsert {write : Write} (planned : planner.upsert row conflict update = .ok write) :
    planner.Upserts row (schema.conflictColumns conflict)
      (schema.upsertTargets (row.values.map Prod.fst) (schema.conflictColumns conflict) update)
      write := by
  obtain ⟨_, _, planned⟩ := exists_of_bind planned
  obtain ⟨columns, written, planned⟩ := exists_of_bind planned
  obtain ⟨rfl, named⟩ := Row.identifiers_of_writtenColumns written
  obtain ⟨_, required, planned⟩ := exists_of_bind planned
  obtain ⟨source, found, planned⟩ := exists_of_bind planned
  obtain rfl := Except.ok.inj planned
  have deciding := identifiers_of_requireColumns required
  have identifies := identifies_of_upsertIdSource found
  refine ⟨rfl, identifies, ?_, named, fun column listed =>
    deciding column (List.mem_append_left _ listed)⟩
  rintro select rfl
  cases identifies with
  | lookup _ _ _ found selects =>
    rw [selects]
    exact looksUpBy_of_conflictQuery (schema.conflictColumns_ne_nil conflict) found

theorem written_of_conflictQuery {query : Query}
    (found : planner.conflictQuery row conflict = .ok query) :
    ∀ column ∈ conflict, (row.values.lookup column).isSome := by
  obtain ⟨values, written, rfl⟩ := exists_of_conflictQuery found
  clear found
  induction written with
  | nil => nofun
  | cons first _ ih => exact List.forall_mem_cons.2 ⟨Option.isSome_of_eq_some first, ih⟩

end Planner

/-- A row that writes its identity writes it as the identity that it has. -/
def Row.CarriesId {schema : Schema} (row : Row schema) : Prop :=
  ∀ entry ∈ row.values, entry.1 = schema.idColumn →
    entry.2.datum? = (schema.idValue row.id).toValue.datum?

namespace Catalog

variable {schema : Schema} {κ : Type} {catalog : Catalog schema κ} {row : Row schema}
  {planner : Planner schema} {conflict : List String}

/-- The select by the conflict columns keeps a tuple on which all of its comparisons are true. -/
theorem keeps_conflictQuery_iff {query : Query}
    (found : planner.conflictQuery row conflict = .ok query)
    (named : ∀ name ∈ conflict, isIdentifier name false)
    (unreserved : ∀ name ∈ conflict, IsUnreserved name.toList) (tuple : Tuple κ) :
    query.Keeps (catalog.truth tuple) ↔ ∀ name ∈ conflict, ∀ value ∈ row.values.lookup name,
      catalog.truth tuple (equalAtom name, [value]) = .yes := by
  have plain (name : String) (listed : name ∈ conflict) (value : Value) :
      (Leaf.compare name .eq value).IsPlain ∧ (Condition.eq name value).bound =
        [(.and, .atom (equalAtom name, [value]))] := by
    have chars := isNameChar_of_isIdentifier (named name listed)
    exact Leaf.bound_equal chars.1 chars.2
      (isOperand_name chars.1 chars.2 (unreserved name listed)) value
  have mem_restrictions {restriction : Restriction}
      (member : restriction ∈ row.conflictRestrictions conflict) :
      ∃ name ∈ conflict, ∃ value, row.values.lookup name = some value ∧
        restriction = .holds (.eq name value) := by
    obtain ⟨name, listed, present⟩ := List.mem_filterMap.1 member
    obtain ⟨value, written, rfl⟩ := Option.map_eq_some_iff.1 present
    exact ⟨name, listed, value, written, rfl⟩
  have formed : ∀ restriction ∈ row.conflictRestrictions conflict, restriction.IsWellFormed := by
    intro restriction member
    obtain ⟨name, listed, value, _, rfl⟩ := mem_restrictions member
    exact List.forall_mem_singleton.2 (plain name listed value).1.isWellFormed
  have whole := Restriction.truth?_predicate formed
    (row.takesArguments_conflictRestrictions named) (catalog.truth tuple)
  rw [planner.conflictQuery_eq row found, Query.Keeps, Query.truth?,
    Query.predicate?_foldl_add rfl, whole, Option.some_inj, ← top_le_iff, le_allOf_iff]
  constructor
  · intro all name listed value written
    have member : .holds (.eq name value) ∈ row.conflictRestrictions conflict := by
      refine List.mem_filterMap.2 ⟨name, listed, ?_⟩
      rw [Option.mem_def.1 written]
      rfl
    have here := all _ (List.mem_map_of_mem member)
    rw [Restriction.bound, (plain name listed value).2] at here
    exact top_le_iff.1 here
  · intro all _ said
    obtain ⟨restriction, member, rfl⟩ := List.mem_map.1 said
    obtain ⟨name, listed, value, written, rfl⟩ := mem_restrictions member
    rw [Restriction.bound, (plain name listed value).2]
    exact top_le_iff.2 (all name listed value written)

section Storing

variable {schema : Schema} {κ : Type} (catalog : Catalog schema κ)

/-- Whether an insertion of values writes a tuple. What the tuple has in other columns is up to the
table. -/
def Writes (values : List (String × Value)) (incoming : Tuple κ) : Prop :=
  ∀ entry ∈ values, ∃ column, catalog.column? entry.1 = some column ∧
    entry.2.datum? = some (incoming column)

/-- A stored tuple conflicts with an incoming one if both have equal data, and no null, in all of the
columns that decide. -/
def Clashes (conflict : List String) (old incoming : Tuple κ) : Prop :=
  ∀ name ∈ conflict, ∀ column ∈ catalog.column? name,
    old column ≠ .null ∧ incoming column ≠ .null ∧ catalog.equal (old column) (incoming column)

/-- A stored tuple with the columns of some names as an incoming one has them. -/
def merge [DecidableEq κ] (targets : List String) (old incoming : Tuple κ) : Tuple κ :=
  fun column =>
    if ∃ name ∈ targets, catalog.column? name = some column then incoming column else old column

/-- What an upsert makes of a table: the tuple that it stores, and the table afterwards. The columns
that decide are a unique key, so an incoming tuple conflicts with at most one stored tuple. -/
inductive Stores [DecidableEq κ] (conflict targets : List String) (table : List (Tuple κ))
    (incoming : Tuple κ) : Tuple κ → List (Tuple κ) → Prop
  | inserted (free : ∀ old ∈ table, ¬catalog.Clashes conflict old incoming) :
    Stores conflict targets table incoming incoming (incoming :: table)
  | merged {front back : List (Tuple κ)} {old : Tuple κ} (stored : table = front ++ old :: back)
    (clashes : catalog.Clashes conflict old incoming)
    (alone : ∀ other ∈ front ++ back, ¬catalog.Clashes conflict other incoming) :
    Stores conflict targets table incoming (catalog.merge targets old incoming)
      (front ++ catalog.merge targets old incoming :: back)

variable {catalog} {incoming : Tuple κ} {row : Row schema} {planner : Planner schema}
  {conflict targets : List String}

theorem Writes.identity (writes : catalog.Writes row.values incoming) (carries : row.CarriesId)
    (written : schema.idColumn ∈ row.values.map Prod.fst) :
    (schema.idValue row.id).toValue.datum? = some (incoming catalog.key) := by
  obtain ⟨entry, listed, named⟩ := List.mem_map.1 written
  obtain ⟨column, known, given⟩ := writes entry listed
  rw [named, catalog.keyed] at known
  obtain rfl := Option.some.inj known
  rw [← carries entry listed named, given]

theorem Writes.of_conflictQuery (writes : catalog.Writes row.values incoming) {query : Query}
    (found : planner.conflictQuery row conflict = .ok query) : ∀ name ∈ conflict, ∃ value column,
      row.values.lookup name = some value ∧ catalog.column? name = some column ∧
        value.datum? = some (incoming column) := by
  intro name listed
  obtain ⟨value, present⟩ :=
    Option.isSome_iff_exists.1 (Planner.written_of_conflictQuery found name listed)
  obtain ⟨column, known, given⟩ := writes _ (mem_of_lookup present)
  exact ⟨value, column, present, known, given⟩

/-- The select by the conflict columns keeps the tuples that conflict with the incoming one. -/
theorem Writes.keeps_lookup_iff (writes : catalog.Writes row.values incoming) {query : Query}
    (found : planner.conflictQuery row conflict = .ok query)
    (named : ∀ name ∈ conflict, isIdentifier name false) (tuple : Tuple κ) :
    query.Keeps (catalog.truth tuple) ↔ catalog.Clashes conflict tuple incoming := by
  have written := writes.of_conflictQuery found
  have unreserved : ∀ name ∈ conflict, IsUnreserved name.toList := by
    intro name listed
    obtain ⟨_, column, _, known, _⟩ := written name listed
    exact catalog.unreserved name column known
  rw [keeps_conflictQuery_iff found named unreserved]
  refine forall₂_congr fun name listed => ?_
  obtain ⟨value, column, present, known, given⟩ := written name listed
  simp only [present, known, Option.mem_def, Option.some.injEq, forall_eq']
  rw [truth_equal known, compare_eq_yes]
  constructor
  · rintro ⟨datum, given', comparison⟩
    obtain rfl := Option.some.inj (given.symm.trans given')
    exact comparison
  · intro comparison
    exact ⟨_, given, comparison⟩

namespace Stores

variable [DecidableEq κ] {table after : List (Tuple κ)} {stored : Tuple κ}

/-- In a column that decides the conflict, the stored tuple has what the incoming one has. -/
theorem agrees (stores : catalog.Stores conflict targets table incoming stored after) {name : String}
    (deciding : name ∈ conflict) {column : κ} (known : catalog.column? name = some column)
    (present : incoming column ≠ .null) :
    stored column ≠ .null ∧ catalog.equal (stored column) (incoming column) := by
  cases stores with
  | inserted => exact ⟨present, catalog.equal_self _⟩
  | merged _ clashes =>
    unfold merge
    split
    · exact ⟨present, catalog.equal_self _⟩
    · obtain ⟨there, _, same⟩ := clashes name deciding column known
      exact ⟨there, same⟩

theorem clashes_iff (stores : catalog.Stores conflict targets table incoming stored after) :
    catalog.Clashes conflict stored incoming ↔
      ∀ name ∈ conflict, ∀ column ∈ catalog.column? name, incoming column ≠ .null := by
  constructor
  · intro clashes name listed column known
    exact (clashes name listed column known).2.1
  · intro present name listed column known
    have here := present name listed column known
    obtain ⟨there, same⟩ := stores.agrees listed known here
    exact ⟨there, here, same⟩

theorem mem (stores : catalog.Stores conflict targets table incoming stored after) :
    stored ∈ after := by
  cases stores with
  | inserted => exact List.mem_cons_self
  | merged => exact List.mem_append_right _ List.mem_cons_self

/-- No other tuple of the table conflicts with the incoming one. -/
theorem eq_of_clashes (stores : catalog.Stores conflict targets table incoming stored after)
    {tuple : Tuple κ} (listed : tuple ∈ after) (clashes : catalog.Clashes conflict tuple incoming) :
    tuple = stored := by
  cases stores with
  | inserted free =>
    obtain rfl | old := List.mem_cons.1 listed
    · rfl
    · exact absurd clashes (free tuple old)
  | merged _ _ alone =>
    rcases List.mem_append.1 listed with front | rest
    · exact absurd clashes (alone tuple (List.mem_append_left _ front))
    · obtain rfl | back := List.mem_cons.1 rest
      · rfl
      · exact absurd clashes (alone tuple (List.mem_append_right _ back))

theorem hasId (stores : catalog.Stores conflict targets table incoming stored after)
    (writes : catalog.Writes row.values incoming) (carries : row.CarriesId)
    (written : schema.idColumn ∈ row.values.map Prod.fst) (deciding : schema.idColumn ∈ conflict) :
    catalog.HasId row.id stored := by
  have given := writes.identity carries written
  have present : incoming catalog.key ≠ .null := by
    intro null
    rw [null] at given
    exact IdValue.datum?_ne_null _ given
  obtain ⟨there, same⟩ := stores.agrees deciding catalog.keyed present
  exact compare_eq_yes.2 ⟨_, given, there, present, same⟩

end Stores

end Storing

end Catalog

/-- An upsert reports the identity of the row that it stores. The identity that the row carries is
used if and only if it is written and decides the conflict, and then the stored row has it. Where the
stored row has to be looked up by the conflict columns, it is found if and only if no null has been
written into one of them: a comparison with null is not true of any row. -/
theorem Planner.upsert_identifies_stored_row {schema : Schema} {planner : Planner schema}
    {row : Row schema} {conflict update : List String} {write : Write}
    (planned : planner.upsert row conflict update = .ok write) (carries : row.CarriesId) :
    let columns := row.values.map Prod.fst
    let deciding := schema.conflictColumns conflict
    let targets := schema.upsertTargets columns deciding update
    planner.Upserts row deciding targets write ∧
    ((∃ id, write.id = .known id) ↔ schema.idColumn ∈ columns ∧ schema.idColumn ∈ deciding) ∧
    ∀ (κ : Type) [DecidableEq κ] (catalog : Catalog schema κ) (table after : List (Tuple κ))
      (incoming stored : Tuple κ), catalog.Writes row.values incoming →
      catalog.Stores deciding targets table incoming stored after →
      (∀ id, write.id = .known id → catalog.compare (stored catalog.key) id.toValue = .yes) ∧
      ∀ statement, write.id = .lookup statement →
        ∃ query, planner.conflictQuery row deciding = .ok query ∧
          statement = query.select schema.idColumn ∧
          (query.Keeps (catalog.truth stored) ↔
            ∀ name ∈ deciding, ∀ column ∈ catalog.column? name, incoming column ≠ .null) := by
  intro columns deciding targets
  have upserts := upserts_of_upsert planned
  have identifies := upserts.identifies
  refine ⟨upserts, identifies.known_iff, ?_⟩
  intro κ _ catalog table after incoming stored writes stores
  constructor
  · intro id source
    rw [source] at identifies
    cases identifies with
    | known written decides => exact stores.hasId writes carries written decides
  · intro statement source
    rw [source] at identifies
    cases identifies with
    | lookup _ _ _ found selects =>
      have kept := writes.keeps_lookup_iff found upserts.deciding stored
      exact ⟨_, found, selects, kept.trans stores.clashes_iff⟩

/-- Tags, which have a text for their identity. -/
def tagSchema : Schema :=
  ⟨"tags", .text, "id", ["id", "label"], none, none, [("id", .id), ("label", .optionalText)]⟩

def tagPlanner : Planner tagSchema :=
  ⟨.empty, { Settings.default with dialect := .mysql }, false⟩

def tagRow (label : Value) : Row tagSchema := ⟨"t2", [("id", .text "t2"), ("label", label)], .empty⟩

inductive TagColumn where
  | id
  | label
deriving DecidableEq

def tagCatalog : Catalog tagSchema TagColumn :=
  .ofNames [("id", .id), ("tags.id", .id), ("label", .label)] .id rfl nofun
    (by rintro _ (rfl | marker); exacts [rfl, nomatch marker]) (by decide)

def tag (id : String) (label : Argument) : Tuple TagColumn
  | .id => .text id
  | .label => label

theorem carriesId_tagRow (label : Value) : (tagRow label).CarriesId := by
  intro entry listed named
  have written : entry ∈ [("id", .text "t2"), ("label", label)] := listed
  simp only [List.mem_cons, List.not_mem_nil, or_false] at written
  rcases written with rfl | rfl
  · rfl
  · have different : "label" ≠ "id" := by decide
    exact absurd named different

theorem writes_tagRow {label : Value} {datum : Argument} (given : label.datum? = some datum) :
    tagCatalog.Writes (tagRow label).values (tag "t2" datum) := by
  intro entry listed
  have written : entry ∈ [("id", .text "t2"), ("label", label)] := listed
  simp only [List.mem_cons, List.not_mem_nil, or_false] at written
  rcases written with rfl | rfl
  · exact ⟨.id, rfl, rfl⟩
  · exact ⟨.label, rfl, given⟩

theorem Planner.upsert_identifies_stored_row_of_tag :
    ∃ (write : Write) (query : Query),
      tagPlanner.upsert (tagRow (.text "new")) ["label"] [] = .ok write ∧
      write.id = .lookup (query.select "id") ∧
      query.Keeps (tagCatalog.truth (tag "t1" (.text "new"))) := by
  have planned : ∃ write, tagPlanner.upsert (tagRow (.text "new")) ["label"] [] = .ok write ∧
      write.id = .lookup ⟨"SELECT id FROM tags WHERE label = ?", [.text "new"]⟩ := ⟨_, rfl, rfl⟩
  obtain ⟨write, planned, source⟩ := planned
  obtain ⟨_, _, meaning⟩ := upsert_identifies_stored_row planned (carriesId_tagRow _)
  have clashes : tagCatalog.Clashes ["label"] (tag "t1" (.text "new")) (tag "t2" (.text "new")) := by
    intro name listed column known
    obtain rfl := List.mem_singleton.1 listed
    obtain rfl : TagColumn.label = column := Option.some.inj known
    exact ⟨nofun, nofun, tagCatalog.equal_self _⟩
  have merged : tagCatalog.merge ["label"] (tag "t1" (.text "new")) (tag "t2" (.text "new")) =
      tag "t1" (.text "new") := by
    funext column
    cases column <;> rfl
  have stores : tagCatalog.Stores ["label"] ["label"] ([] ++ [tag "t1" (.text "new")])
      (tag "t2" (.text "new")) (tagCatalog.merge ["label"] (tag "t1" (.text "new"))
        (tag "t2" (.text "new"))) _ := .merged rfl clashes nofun
  rw [merged] at stores
  obtain ⟨query, _, same, keeps⟩ :=
    (meaning TagColumn tagCatalog _ _ _ _ (writes_tagRow rfl) stores).2 _ source
  refine ⟨write, query, planned, source.trans (congrArg _ same), keeps.2 ?_⟩
  intro name listed column known
  obtain rfl := List.mem_singleton.1 listed
  obtain rfl : TagColumn.label = column := Option.some.inj known
  nofun

def nullTagWrite : Write :=
  ⟨⟨"INSERT INTO tags (id, label) VALUES (?, NULL) ON DUPLICATE KEY UPDATE label = VALUES(label)",
      [.text "t2"]⟩,
    .lookup ⟨"SELECT id FROM tags WHERE label = NULL", []⟩⟩

/-- A null in the column that decides: the row is inserted, since a null never conflicts, and the
select by that column does not find it. -/
theorem Planner.null_row_is_not_looked_up :
    tagPlanner.upsert (tagRow .null) ["label"] [] = .ok nullTagWrite ∧
    (tagRow .null).CarriesId ∧
    tagCatalog.Writes (tagRow .null).values (tag "t2" .null) ∧
    tagCatalog.Stores ["label"] ["label"] [] (tag "t2" .null) (tag "t2" .null) [tag "t2" .null] ∧
    ∃ query, tagPlanner.conflictQuery (tagRow .null) ["label"] = .ok query ∧
      nullTagWrite.id = .lookup (query.select "id") ∧
      ¬query.Keeps (tagCatalog.truth (tag "t2" .null)) := by
  have writes := @writes_tagRow .null .null rfl
  have stores : tagCatalog.Stores ["label"] ["label"] [] (tag "t2" .null) (tag "t2" .null)
      [tag "t2" .null] := .inserted nofun
  have found : ∃ query, tagPlanner.conflictQuery (tagRow .null) ["label"] = .ok query ∧
      nullTagWrite.id = .lookup (query.select "id") := ⟨_, rfl, rfl⟩
  obtain ⟨query, found, source⟩ := found
  refine ⟨rfl, carriesId_tagRow _, writes, stores, query, found, source, fun keeps => ?_⟩
  have clashes := (writes.keeps_lookup_iff found (by decide) _).1 keeps
  exact stores.clashes_iff.1 clashes "label" (List.mem_singleton_self _) .label rfl rfl

end DataAccess
