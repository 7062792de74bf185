import DataAccess.Plan.Preloading
import DataAccess.Proofs.Plan.Parts

/-! The calls of a planner, and preloads, by the parts of their statements. -/
namespace DataAccess

/-- The statements of a write: the write itself, and the one that looks up the written row. -/
def Write.statements (write : Write) : List Statement :=
  write.statement :: match write.id with
    | .lookup statement => [statement]
    | _ => []

/-- A write whose identity needs no second statement is one statement. -/
theorem Planner.statements_of_idSource {schema : Schema} {planner : Planner schema}
    {columns : List String} {row : Row schema} {source : IdSource}
    (found : planner.idSource columns row = .ok source) (statement : Statement) :
    Write.statements ⟨statement, source⟩ = [statement] := by
  cases source with
  | lookup other => exact absurd rfl (planner.idSource_ne_lookup found other)
  | _ => rfl

inductive PlannedCall (schema : Schema) where
  | listing (condition : Option Condition) (request : ListingRequest) (locale : String)
      (counted : Bool)
  | first (condition : Option Condition) (locale : String)
  | byId (id : schema.idType.Carrier) (locale : String)
  | byIds (ids : List schema.idType.Carrier) (locale : String)
  | count (condition : Option Condition)
  | pluck (column : String) (condition : Option Condition)
  | update (condition : Option Condition) (changes : Changes)
  | delete (condition : Option Condition)
  | purge (condition : Option Condition)
  | restore (condition : Option Condition)
  | insert (row : Row schema)
  | upsert (row : Row schema) (conflict targets : List String)
  | findOrCreate (condition : Option Condition) (row : Row schema)

namespace PlannedCall

variable {schema : Schema} (planner : Planner schema)

def plan : PlannedCall schema → Except DataError (List Statement)
  | listing condition request locale counted =>
    let planned := planner.listing condition request locale counted
    .ok (planned.select :: planned.count.toList)
  | first condition locale => (planner.first condition locale).map ([·])
  | byId id locale => (planner.byId id locale).map ([·])
  | byIds ids locale => (planner.byIds ids locale).map ([·])
  | count condition => .ok [planner.count condition]
  | pluck column condition => (planner.pluck column condition).map ([·])
  | update condition changes => (planner.update condition changes).map ([·])
  | delete condition => .ok [planner.delete condition]
  | purge condition => .ok [planner.purge condition]
  | restore condition => (planner.restore condition).map ([·])
  | insert row => (planner.insert row).map Write.statements
  | upsert row conflict targets => (planner.upsert row conflict targets).map Write.statements
  | findOrCreate condition row => (planner.findOrCreate condition row).map Write.statements

/-- The condition of a call: the caller's, or the one that selects identities. -/
def condition? : PlannedCall schema → Option Condition
  | listing condition _ _ _ => condition
  | first condition _ => condition
  | byId identity _ =>
    some (.eq (schema.qualified schema.idColumn) (schema.idValue identity).toValue)
  | byIds identities _ => some (.inList (schema.qualified schema.idColumn)
      (.list (identities.map fun identity => (schema.idValue identity).toValue)))
  | count condition => condition
  | pluck _ condition => condition
  | update condition _ => condition
  | delete condition => condition
  | purge condition => condition
  | restore condition => condition
  | insert _ => none
  | upsert _ _ _ => none
  | findOrCreate condition _ => condition

/-- What holds of every leaf that a caller gives. -/
def AllLeaves (holds : Leaf → Prop) : PlannedCall schema → Prop
  | byId _ _ => True
  | byIds _ _ => True
  | call => ∀ condition ∈ call.condition?, ∀ leaf ∈ condition.leaves, holds leaf

end PlannedCall

namespace PlannedCall

variable {schema : Schema} (planner : Planner schema)

def shapes : PlannedCall schema → Except DataError (List Shape)
  | listing condition request locale counted =>
    let rows := planner.listingRows condition
    .ok (.select (planner.listingQuery condition request counted) (planner.restrictions condition)
        (planner.selectList true locale) ::
      if counted then [.count rows (planner.restrictions condition)] else [])
  | first condition locale => do
    let id ← schema.identityColumn
    return [planner.firstShape condition id locale]
  | byId identity locale => do
    let condition ← schema.idCondition identity
    let id ← schema.identityColumn
    return [planner.firstShape (some condition) id locale]
  | byIds identities locale => do
    let id ← schema.identityColumn
    let condition ← schema.idsCondition identities
    return [.select ((planner.visible (some condition)).sort (schema.qualified id) .asc)
      (planner.restrictions (some condition)) (planner.selectList false locale)]
  | count condition => .ok [.count (planner.visible condition) (planner.restrictions condition)]
  | pluck column condition => do
    requireIdentifier column .column
    return [.select (planner.visible condition) (planner.restrictions condition) column]
  | update condition changes => do
    if changes.isEmpty then throw (.ofQueryError .noColumns)
    requireColumns (changes.assignments.map Prod.fst)
    return [⟨schema.updateLayout changes.assignments, planner.restrictions condition, ""⟩]
  | delete condition => .ok [schema.deleteShape condition]
  | purge condition =>
    .ok [⟨[.text ("DELETE FROM " ++ schema.table)], Restriction.ofScope condition none, ""⟩]
  | restore condition =>
    match schema.softDelete with
    | some marker => .ok [⟨[.text ("UPDATE " ++ schema.table ++ " SET " ++ marker ++ " = NULL")],
        Restriction.ofScope condition none, ""⟩]
    | none => .error (.configuration (.noSoftDelete schema.table))
  | insert row => do
    let columns ← row.writtenColumns
    let source ← planner.idSource columns row
    return [⟨row.insertLayout, [], source.returningText schema.idColumn⟩]
  | upsert row conflict targets => do
    let id ← schema.identityColumn
    let columns ← row.writtenColumns
    let conflict := schema.conflictColumns conflict
    requireColumns (conflict ++ targets)
    let targets := schema.upsertTargets columns conflict targets
    let source ← planner.upsertIdSource columns conflict row
    return ⟨row.insertLayout, [], planner.conflictText source conflict targets⟩ ::
      match source with
      | .lookup _ => [.select planner.wholeTable (row.conflictRestrictions conflict) id]
      | _ => []
  | findOrCreate condition row => do
    let columns ← row.writtenColumns
    let source ← planner.idSource columns row
    return [planner.guardedShape condition row source]

/-- The identity column of an entity that has a call by identities is an identifier. -/
theorem shapes_first {condition : Option Condition} {locale : String} {shapes : List Shape}
    (planned : (first condition locale : PlannedCall schema).shapes planner = .ok shapes) :
    isIdentifier schema.idColumn false ∧
      shapes = [planner.firstShape condition schema.idColumn locale] := by
  obtain ⟨id, found, planned⟩ := exists_of_bind planned
  obtain ⟨rfl, named⟩ := Schema.identityColumn_eq found
  exact ⟨named, (Except.ok.inj planned).symm⟩

theorem shapes_byId {identity : schema.idType.Carrier} {locale : String} {shapes : List Shape}
    (planned : (byId identity locale).shapes planner = .ok shapes) :
    isIdentifier schema.idColumn false ∧
      shapes = [planner.firstShape (byId identity locale).condition? schema.idColumn locale] := by
  obtain ⟨condition, selects, planned⟩ := exists_of_bind planned
  obtain ⟨column, found, selects⟩ := exists_of_bind selects
  obtain ⟨rfl, _⟩ := Schema.identityColumn_eq found
  cases selects
  exact shapes_first planner planned

theorem shapes_byIds {identities : List schema.idType.Carrier} {locale : String}
    {shapes : List Shape} (planned : (byIds identities locale).shapes planner = .ok shapes) :
    isIdentifier schema.idColumn false ∧
      shapes = [.select ((planner.visible (byIds identities locale).condition?).sort
        (schema.qualified schema.idColumn) .asc)
        (planner.restrictions (byIds identities locale).condition?)
        (planner.selectList false locale)] := by
  obtain ⟨id, found, planned⟩ := exists_of_bind planned
  obtain ⟨condition, selects, planned⟩ := exists_of_bind planned
  obtain ⟨column, foundToo, selects⟩ := exists_of_bind selects
  obtain ⟨rfl, named⟩ := Schema.identityColumn_eq found
  obtain ⟨rfl, _⟩ := Schema.identityColumn_eq foundToo
  cases selects
  exact ⟨named, (Except.ok.inj planned).symm⟩

theorem shapes_pluck {column : String} {condition : Option Condition} {shapes : List Shape}
    (planned : (pluck column condition : PlannedCall schema).shapes planner = .ok shapes) :
    isIdentifier column false ∧
      shapes = [.select (planner.visible condition) (planner.restrictions condition) column] := by
  obtain ⟨_, named, planned⟩ := exists_of_bind planned
  exact ⟨isIdentifier_of_required named, (Except.ok.inj planned).symm⟩

theorem shapes_update {condition : Option Condition} {changes : Changes} {shapes : List Shape}
    (planned : (update condition changes : PlannedCall schema).shapes planner = .ok shapes) :
    (∀ column ∈ changes.assignments.map Prod.fst, isIdentifier column false) ∧
      shapes = [⟨schema.updateLayout changes.assignments, planner.restrictions condition, ""⟩] := by
  simp only [PlannedCall.shapes] at planned
  split at planned
  · cases planned
  · obtain ⟨_, accepted, planned⟩ := exists_of_bind planned
    exact ⟨identifiers_of_requireColumns accepted, (Except.ok.inj planned).symm⟩

theorem shapes_insert {row : Row schema} {shapes : List Shape}
    (planned : (insert row).shapes planner = .ok shapes) :
    (∀ column ∈ row.values.map Prod.fst, isIdentifier column false) ∧
      isIdentifier schema.idColumn false ∧ ∃ source,
      shapes = [⟨row.insertLayout, [], IdSource.returningText source schema.idColumn⟩] := by
  obtain ⟨columns, written, planned⟩ := exists_of_bind planned
  obtain ⟨rfl, named⟩ := Row.identifiers_of_writtenColumns written
  obtain ⟨source, found, planned⟩ := exists_of_bind planned
  exact ⟨named, Planner.identity_of_idSource found, source, (Except.ok.inj planned).symm⟩

theorem shapes_restore {condition : Option Condition} {shapes : List Shape}
    (planned : (restore condition : PlannedCall schema).shapes planner = .ok shapes) :
    ∃ marker, schema.softDelete = some marker ∧
      shapes = [⟨[.text ("UPDATE " ++ schema.table ++ " SET " ++ marker ++ " = NULL")],
        Restriction.ofScope condition none, ""⟩] := by
  simp only [PlannedCall.shapes] at planned
  split at planned
  · next marker declared => exact ⟨marker, declared, (Except.ok.inj planned).symm⟩
  · cases planned

theorem shapes_upsert {row : Row schema} {conflict targets : List String} {shapes : List Shape}
    (planned : (upsert row conflict targets).shapes planner = .ok shapes) :
    (∀ column ∈ row.values.map Prod.fst, isIdentifier column false) ∧
      isIdentifier schema.idColumn false ∧
      (∀ column ∈ schema.conflictColumns conflict ++ targets, isIdentifier column false) ∧
      ∃ source, ∀ shape ∈ shapes,
        shape = ⟨row.insertLayout, [], planner.conflictText source (schema.conflictColumns conflict)
          (schema.upsertTargets (row.values.map Prod.fst) (schema.conflictColumns conflict)
            targets)⟩ ∨
        shape = .select planner.wholeTable
          (row.conflictRestrictions (schema.conflictColumns conflict)) schema.idColumn := by
  obtain ⟨id, identity, planned⟩ := exists_of_bind planned
  obtain ⟨rfl, idNamed⟩ := Schema.identityColumn_eq identity
  obtain ⟨columns, written, planned⟩ := exists_of_bind planned
  obtain ⟨rfl, named⟩ := Row.identifiers_of_writtenColumns written
  obtain ⟨_, accepted, planned⟩ := exists_of_bind planned
  obtain ⟨source, _, planned⟩ := exists_of_bind planned
  refine ⟨named, idNamed, identifiers_of_requireColumns accepted, source, ?_⟩
  cases planned
  rintro shape (_ | ⟨_, member⟩)
  · exact .inl rfl
  · split at member
    · exact .inr (List.mem_singleton.1 member)
    · contradiction

theorem shapes_findOrCreate {condition : Option Condition} {row : Row schema}
    {shapes : List Shape} (planned : (findOrCreate condition row).shapes planner = .ok shapes) :
    (∀ column ∈ row.values.map Prod.fst, isIdentifier column false) ∧
      isIdentifier schema.idColumn false ∧
      ∃ source, shapes = [planner.guardedShape condition row source] := by
  obtain ⟨columns, written, planned⟩ := exists_of_bind planned
  obtain ⟨rfl, named⟩ := Row.identifiers_of_writtenColumns written
  obtain ⟨source, found, planned⟩ := exists_of_bind planned
  exact ⟨named, Planner.identity_of_idSource found, source, (Except.ok.inj planned).symm⟩

theorem plan_listing (condition : Option Condition) (request : ListingRequest) (locale : String)
    (counted : Bool) :
    (listing condition request locale counted).plan planner =
      ((listing condition request locale counted).shapes planner).map
        (·.map (·.statement planner.dialect)) := by
  have ordered : (planner.listingQuery condition request counted).clauses =
        (planner.visible condition).clauses ∧
      (planner.listingQuery condition request counted).dialect = planner.dialect := by
    unfold Planner.listingQuery
    cases planner.window? request counted <;>
      exact ⟨rfl, planner.dialect_visible condition⟩
  have select := planner.select_visible _ condition ordered.1 ordered.2
    (planner.selectList true locale)
  have restricted : (planner.listingRows condition).predicate? =
      Restriction.predicate? (planner.restrictions condition) :=
    planner.predicate?_visible condition
  have count := Shape.statement_count restricted
  have dialect : (planner.listingRows condition).dialect = planner.dialect :=
    planner.dialect_visible condition
  rw [dialect] at count
  simp only [plan, shapes, Planner.listing, select, count]
  cases counted <;> rfl

theorem plan_byIds (identities : List schema.idType.Carrier) (locale : String) :
    (byIds identities locale).plan planner =
      ((byIds identities locale).shapes planner).map (·.map (·.statement planner.dialect)) := by
  simp only [plan, shapes, Planner.byIds]
  cases schema.identityColumn with
  | error error => rfl
  | ok id =>
    cases schema.idsCondition identities with
    | error error => rfl
    | ok condition =>
      have same := planner.select_visible
        ((planner.visible (some condition)).sort (schema.qualified id) .asc) (some condition) rfl
        (planner.dialect_visible (some condition)) (planner.selectList false locale)
      exact congrArg (fun statement => Except.ok [statement]) same

theorem plan_insert (row : Row schema) :
    (insert row).plan planner =
      ((insert row).shapes planner).map (·.map (·.statement planner.dialect)) := by
  simp only [plan, shapes, Planner.insert, Row.insertion_eq]
  cases row.writtenColumns with
  | error error => rfl
  | ok columns =>
    simp only [bind, Except.bind]
    cases found : planner.idSource columns row with
    | error error => rfl
    | ok source => exact congrArg Except.ok (Planner.statements_of_idSource found _)

theorem plan_upsert (row : Row schema) (conflict targets : List String) :
    (upsert row conflict targets).plan planner =
      ((upsert row conflict targets).shapes planner).map
        (·.map (·.statement planner.dialect)) := by
  simp only [plan, shapes, Planner.upsert, Row.insertion_eq]
  cases identity : schema.identityColumn with
  | error error => rfl
  | ok id =>
    cases row.writtenColumns with
    | error error => rfl
    | ok columns =>
      simp only [bind, Except.bind]
      cases requireColumns (schema.conflictColumns conflict ++ targets) with
      | error error => rfl
      | ok _ =>
        cases found : planner.upsertIdSource columns (schema.conflictColumns conflict) row with
        | error error => rfl
        | ok source =>
          -- only a source that is a look-up has a second statement
          cases source with
          | lookup statement =>
            rw [planner.lookup_eq identity found]
            rfl
          | _ => rfl

theorem plan_findOrCreate (condition : Option Condition) (row : Row schema) :
    (findOrCreate condition row).plan planner =
      ((findOrCreate condition row).shapes planner).map (·.map (·.statement planner.dialect)) := by
  simp only [plan, shapes, Planner.findOrCreate, planner.guardedInsert_eq]
  cases row.writtenColumns with
  | error error => rfl
  | ok columns =>
    simp only [bind, Except.bind]
    cases found : planner.idSource columns row with
    | error error => rfl
    | ok source => exact congrArg Except.ok (Planner.statements_of_idSource found _)

/-- What a call plans are its shapes, rendered. -/
theorem plan_eq (call : PlannedCall schema) :
    call.plan planner = (call.shapes planner).map (·.map (·.statement planner.dialect)) := by
  cases call with
  | listing condition request locale counted =>
    exact plan_listing planner condition request locale counted
  | first condition locale =>
    simp only [plan, shapes, planner.first_eq]
    cases schema.identityColumn <;> rfl
  | byId identity locale =>
    simp only [plan, shapes, Planner.byId, planner.first_eq]
    cases schema.idCondition identity <;> cases schema.identityColumn <;> rfl
  | byIds identities locale => exact plan_byIds planner identities locale
  | count condition =>
    have same := Shape.statement_count (planner.predicate?_visible condition)
    rw [planner.dialect_visible] at same
    exact congrArg (fun statement => Except.ok [statement]) same
  | pluck column condition =>
    simp only [plan, shapes, Planner.pluck]
    cases requireIdentifier column .column with
    | error error => rfl
    | ok _ =>
      have same := planner.select_visible (planner.visible condition) condition rfl
        (planner.dialect_visible condition) column
      exact congrArg (fun statement => Except.ok [statement]) same
  | update condition changes =>
    simp only [plan, shapes, Planner.update, Schema.updateHead_eq, planner.mutation_eq]
    split
    · rfl
    · cases requireColumns (changes.assignments.map Prod.fst) <;> rfl
  | delete condition =>
    simp only [plan, shapes, Planner.delete, Planner.purge, Schema.deleteShape,
      planner.mutation_text]
    cases schema.softDelete <;> rfl
  | purge condition =>
    simp only [plan, shapes, Planner.purge, planner.mutation_text]
    rfl
  | restore condition =>
    simp only [plan, shapes, Planner.restore, planner.mutation_text]
    cases schema.softDelete <;> rfl
  | insert row => exact plan_insert planner row
  | upsert row conflict targets => exact plan_upsert planner row conflict targets
  | findOrCreate condition row => exact plan_findOrCreate planner condition row

theorem shapes_of_plan {planner : Planner schema} {call : PlannedCall schema}
    {statements : List Statement} (planned : call.plan planner = .ok statements) :
    ∃ shapes, call.shapes planner = .ok shapes ∧
      statements = shapes.map (·.statement planner.dialect) := by
  rw [plan_eq] at planned
  cases parts : call.shapes planner with
  | error error =>
    rw [parts] at planned
    contradiction
  | ok shapes =>
    rw [parts] at planned
    exact ⟨shapes, rfl, (Except.ok.inj planned).symm⟩

/-- What holds of every leaf that a caller gives, and on the identity column, holds of every leaf of
the condition of a call. -/
theorem forall_leaves {planner : Planner schema} {holds : Leaf → Prop}
    (onIdentity : ∀ leaf, isIdentifier schema.idColumn false →
      leaf.column? = some (schema.qualified schema.idColumn) → holds leaf)
    {call : PlannedCall schema} {shapes : List Shape} (given : call.AllLeaves holds)
    (planned : call.shapes planner = .ok shapes) :
    ∀ condition ∈ call.condition?, ∀ leaf ∈ condition.leaves, holds leaf := by
  cases call with
  | byId identity locale =>
    rintro _ ⟨⟩ leaf member
    obtain rfl := List.mem_singleton.1 member
    exact onIdentity _ (shapes_byId planner planned).1 rfl
  | byIds identities locale =>
    rintro _ ⟨⟩ leaf member
    obtain rfl := List.mem_singleton.1 member
    exact onIdentity _ (shapes_byIds planner planned).1 rfl
  | _ => exact given

end PlannedCall

namespace Preload

def shape (preload : Preload) (keys : List Value) (locale : String) (dialect : Dialect) : Shape :=
  .select (.ofTable preload.table dialect)
    (Restriction.ofScope (some (.inList preload.foreignKey (.list keys)))
      (preload.scope?.map fun column => preload.table ++ "." ++ column))
    (preload.selectList locale)

/-- A preload is planned by its parts, once its names are identifiers. -/
theorem statement_eq {preload : Preload} {keys : List Value} {locale : String} {dialect : Dialect}
    {statement : Statement} (planned : preload.statement keys locale dialect = .ok statement) :
    statement = (preload.shape keys locale dialect).statement dialect ∧
      isIdentifier preload.table false ∧ isIdentifier preload.foreignKey false ∧
      ∀ column ∈ preload.scope?, isIdentifier column false := by
  have restricted : preload.query keys dialect =
      (Restriction.ofScope (some (.inList preload.foreignKey (.list keys)))
        (preload.scope?.map fun column => preload.table ++ "." ++ column)).foldl Query.add
        (.ofTable preload.table dialect) := by
    unfold query
    cases preload.scope? <;> rfl
  obtain ⟨_, table, planned⟩ := exists_of_bind planned
  obtain ⟨_, key, planned⟩ := exists_of_bind planned
  have columns : ∀ column ∈ preload.scope?, isIdentifier column false := by
    intro column marked
    rw [Option.mem_def.1 marked] at planned
    obtain ⟨_, named, _⟩ := exists_of_bind planned
    exact isIdentifier_of_required named
  refine ⟨?_, isIdentifier_of_required table, isIdentifier_of_required key, columns⟩
  have same : statement = (preload.query keys dialect).select (preload.selectList locale) := by
    cases marked : preload.scope? with
    | none =>
      rw [marked] at planned
      exact (Except.ok.inj planned).symm
    | some column =>
      rw [marked] at planned
      obtain ⟨_, _, planned⟩ := exists_of_bind planned
      exact (Except.ok.inj planned).symm
  rw [same, restricted, Shape.statement_select (Query.predicate?_foldl_add rfl _), Query.foldl_add]
  rfl

end Preload

end DataAccess
