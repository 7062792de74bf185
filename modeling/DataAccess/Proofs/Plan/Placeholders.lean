import DataAccess.Proofs.Plan.PlainText
import DataAccess.Proofs.Plan.Scope

/-! The arguments of planned statements. Every statement of a planner has a layout in which each
value stands behind its own column and each argument at its own leaf, so none is bound elsewhere. -/
namespace DataAccess

namespace Shape

/-- A statement binds the arguments of its head and then those of its restrictions, each at its own
question mark, and none is left over on either side. -/
structure BindsInPlace (shape : Shape) (dialect : Dialect) : Prop where
  closed : shape.layout.IsClosed
  template : shape.template = shape.layout.fragment
  args : shape.template.args =
    shape.head.fragment.args ++ shape.restrictions.flatMap Restriction.args
  marks : QuoteState.marks none shape.template.sql.toList = shape.template.args.length
  statement : shape.statement dialect = shape.layout.statement dialect
  bound : (shape.statement dialect).args = scalars shape.template.args
  numbered : (shape.layout.outputs 0).filterMap Output.binding? =
    ((shape.statement dialect).args.zipIdx 1).map Prod.swap
  written : QuoteState.marks none (shape.statement dialect).sql.toList =
    if dialect = .postgres then 0 else (shape.statement dialect).args.length

theorem bindsInPlace {shape : Shape} (takes : shape.TakesArguments) (dialect : Dialect) :
    shape.BindsInPlace dialect := by
  obtain ⟨closed, template, args⟩ := layout_spec takes
  have statement : shape.statement dialect = shape.layout.statement dialect := by
    rw [Shape.statement, template, Layout.render_eq closed]
  obtain ⟨bound, numbered⟩ := shape.layout.bindings_statement dialect
  constructor
  case closed => exact closed
  case template => exact template
  case args => exact template ▸ args
  case marks => exact template ▸ Layout.marks_fragment closed
  case statement => exact statement
  case bound => rw [statement, template, bound]
  case numbered => rw [statement, numbered]
  case written => rw [statement, Layout.marks_statement closed]

end Shape

namespace PlannedCall

variable {schema : Schema}

/-- Every statement of a planner takes its arguments, if the texts that go into it as they stand do
not interfere. -/
theorem takesArguments_shapes {planner : Planner schema}
    (tableNamed : isIdentifier schema.table false)
    (markerNamed : ∀ marker ∈ schema.softDelete, isIdentifier marker false)
    (spec : planner.spec.IsPlain) (settings : IsPlainText planner.settings.defaultSort)
    {call : PlannedCall schema} {shapes : List Shape} (given : call.AllLeaves Leaf.TakesArguments)
    (planned : call.shapes planner = .ok shapes) : ∀ shape ∈ shapes, shape.TakesArguments := by
  have onIdentity (leaf : Leaf) (idNamed : isIdentifier schema.idColumn false)
      (on : leaf.column? = some (schema.qualified schema.idColumn)) : leaf.TakesArguments := by
    have plain : IsPlainText (schema.qualified schema.idColumn) := .qualified tableNamed idNamed
    cases leaf <;> cases on <;> rintro _ ⟨⟩ <;> exact plain
  have leaves := forall_leaves onIdentity given planned
  have restrictions {condition : Option Condition} (same : call.condition? = condition) :
      ∀ restriction ∈ planner.restrictions condition, restriction.TakesArguments :=
    planner.takesArguments_restrictions tableNamed markerNamed (same ▸ leaves)
  have table : IsPlainText schema.table := .of_identifier tableNamed
  have visible condition := planner.isPlain_visible tableNamed spec condition
  cases call with
  | listing condition request locale counted =>
    cases planned
    have select := Shape.takesArguments_select
      (planner.isPlain_listingQuery tableNamed spec settings condition request counted)
      (restrictions rfl) (planner.plain_selectList tableNamed spec true locale)
    have count := Shape.takesArguments_count
      (planner.isPlain_listingRows tableNamed spec condition) (restrictions rfl)
    refine List.forall_mem_cons.2 ⟨select, ?_⟩
    split
    · rw [List.forall_mem_singleton]
      exact count
    · simp
  | first condition locale =>
    obtain ⟨named, rfl⟩ := shapes_first planner planned
    rw [List.forall_mem_singleton]
    exact planner.takesArguments_firstShape tableNamed spec named (restrictions rfl) locale
  | byId identity locale =>
    obtain ⟨named, rfl⟩ := shapes_byId planner planned
    rw [List.forall_mem_singleton]
    exact planner.takesArguments_firstShape tableNamed spec named (restrictions rfl) locale
  | byIds identities locale =>
    obtain ⟨named, rfl⟩ := shapes_byIds planner planned
    rw [List.forall_mem_singleton]
    exact Shape.takesArguments_select ((visible _).sort (.qualified tableNamed named) .asc)
      (restrictions rfl) (planner.plain_selectList tableNamed spec false locale)
  | count condition =>
    cases planned
    rw [List.forall_mem_singleton]
    exact Shape.takesArguments_count (visible condition) (restrictions rfl)
  | pluck column condition =>
    obtain ⟨named, rfl⟩ := shapes_pluck planner planned
    rw [List.forall_mem_singleton]
    exact Shape.takesArguments_select (visible condition) (restrictions rfl) (.of_identifier named)
  | update condition changes =>
    obtain ⟨named, rfl⟩ := shapes_update planner planned
    rw [List.forall_mem_singleton]
    exact ⟨Schema.isClosed_updateLayout tableNamed named, restrictions rfl, .empty⟩
  | delete condition =>
    cases planned
    rw [List.forall_mem_singleton]
    exact schema.takesArguments_deleteShape tableNamed markerNamed leaves
  | purge condition =>
    cases planned
    rw [List.forall_mem_singleton]
    exact ⟨IsPlainText.append (by decide) table,
      Restriction.takesArguments_ofScope leaves (by simp), .empty⟩
  | restore condition =>
    obtain ⟨marker, declared, rfl⟩ := shapes_restore planner planned
    have markerPlain : IsPlainText marker := .of_identifier (markerNamed marker declared)
    rw [List.forall_mem_singleton]
    exact ⟨(((IsPlainText.append (by decide) table).append (by decide)).append
      markerPlain).append (by decide), Restriction.takesArguments_ofScope leaves (by simp), .empty⟩
  | insert row =>
    obtain ⟨named, idNamed, source, rfl⟩ := shapes_insert planner planned
    rw [List.forall_mem_singleton]
    exact ⟨row.isClosed_insertLayout tableNamed named, by simp,
      source.plain_returningText idNamed⟩
  | upsert row conflict targets =>
    obtain ⟨named, idNamed, given, source, either⟩ := shapes_upsert planner planned
    have conflictNamed column member := given column (List.mem_append_left targets member)
    have targetsNamed := schema.identifiers_of_upsertTargets named conflictNamed
      fun column member => given column (List.mem_append_right _ member)
    intro shape member
    rcases either shape member with rfl | rfl
    · exact ⟨row.isClosed_insertLayout tableNamed named, by simp,
        planner.plain_conflictText source idNamed conflictNamed targetsNamed⟩
    · exact Shape.takesArguments_select (Query.isPlain_ofTable table _)
        (row.takesArguments_conflictRestrictions conflictNamed) (.of_identifier idNamed)
  | findOrCreate condition row =>
    obtain ⟨named, idNamed, source, rfl⟩ := shapes_findOrCreate planner planned
    rw [List.forall_mem_singleton]
    exact planner.takesArguments_guardedShape tableNamed idNamed (restrictions rfl) named source

end PlannedCall

/-- The name that a preload gives to the parent's key is plain, and so is its select list. -/
theorem Preload.takesArguments_shape {preload : Preload} {keys : List Value} {locale : String}
    {dialect : Dialect} (tableNamed : isIdentifier preload.table false)
    (keyNamed : isIdentifier preload.foreignKey false)
    (scopeNamed : ∀ column ∈ preload.scope?, isIdentifier column false)
    (projected : ∀ projection ∈ preload.projection, ∀ field ∈ projection locale,
      IsPlainText field.sql) : (preload.shape keys locale dialect).TakesArguments := by
  have table : IsPlainText preload.table := .of_identifier tableNamed
  have key : IsPlainText preload.foreignKey := .of_identifier keyNamed
  refine Shape.takesArguments_select (Query.isPlain_ofTable table dialect)
    (Restriction.takesArguments_ofScope ?_ ?_) ?_
  · rintro _ ⟨⟩ leaf member
    obtain rfl := List.mem_singleton.1 member
    rintro _ ⟨⟩
    exact key
  · intro column marked
    obtain ⟨marker, declared, rfl⟩ := Option.map_eq_some_iff.1 marked
    exact .qualified tableNamed (scopeNamed marker declared)
  · have whole := table.append (by decide : IsPlainText ".*")
    have columns := Projection.plain_render? whole projected
    have name : IsPlainText preloadKey := by decide
    exact (((columns.append (by decide)).append key).append (by decide)).append name

namespace PlannedCall

/-- Every statement of a planner, and of a preload, binds each argument in its own place, if the
texts that go into it as they stand have balanced quotes and no question marks, and raw fragments
have as many of those as arguments. -/
theorem plan_binds_in_place :
    (∀ (schema : Schema) (spec : Spec) (settings : Settings) (unscoped : Bool)
      (planner : Planner schema) (call : PlannedCall schema) (statements : List Statement),
      Planner.make schema spec settings unscoped = .ok planner →
      spec.IsPlain → IsPlainText settings.defaultSort →
      call.AllLeaves Leaf.TakesArguments →
      call.plan planner = .ok statements →
      ∃ shapes, call.shapes planner = .ok shapes ∧
        statements = shapes.map (·.statement settings.dialect) ∧
        ∀ shape ∈ shapes, shape.BindsInPlace settings.dialect) ∧
    (∀ (preload : Preload) (keys : List Value) (locale : String) (dialect : Dialect)
      (statement : Statement),
      (∀ projection ∈ preload.projection, ∀ field ∈ projection locale, IsPlainText field.sql) →
      preload.statement keys locale dialect = .ok statement →
      statement = (preload.shape keys locale dialect).statement dialect ∧
        (preload.shape keys locale dialect).BindsInPlace dialect) := by
  constructor
  · intro schema spec settings unscoped planner call statements made plain sort given planned
    obtain ⟨rfl, tableNamed, markerNamed⟩ := Planner.make_eq made
    obtain ⟨shapes, parts, rfl⟩ := shapes_of_plan planned
    refine ⟨shapes, parts, rfl, fun shape member => ?_⟩
    exact Shape.bindsInPlace
      (takesArguments_shapes tableNamed markerNamed plain sort given parts shape member) _
  · intro preload keys locale dialect statement projected planned
    obtain ⟨same, tableNamed, keyNamed, scopeNamed⟩ := Preload.statement_eq planned
    exact ⟨same, Shape.bindsInPlace
      (Preload.takesArguments_shape tableNamed keyNamed scopeNamed projected) dialect⟩

/-- A planner for a dialect that numbers its placeholders. -/
def numberedPlanner : Planner markedUsers :=
  ⟨.empty, ⟨20, none, "created_at", "en", .postgres⟩, false⟩

/-- An update of the users with a name or one of two identities. -/
def renameUsers : PlannedCall markedUsers :=
  .update (some ((Condition.eq "name" (.text "a")).or (.inList "id" (.list [.int 2, .int 3]))))
    (Changes.empty.set "name" (.text "b"))

def renameStatement : Statement :=
  ⟨"UPDATE users SET name = $1 WHERE (name = $2 OR id IN ($3, $4)) AND users.deleted_at IS NULL",
    [.text "b", .text "a", .int 2, .int 3]⟩

def postsOfUsers : Preload := .ofKey "posts" "posts" "user_id"

def postsStatement : Statement :=
  ⟨"SELECT posts.*, user_id AS sift_preload_key FROM posts WHERE user_id IN (?)", [.int 1]⟩

theorem plan_binds_in_place_of_update :
    (Planner.make markedUsers .empty numberedPlanner.settings false = .ok numberedPlanner ∧
      Spec.empty.IsPlain ∧ IsPlainText numberedPlanner.settings.defaultSort ∧
      renameUsers.AllLeaves Leaf.TakesArguments ∧
      renameUsers.plan numberedPlanner = .ok [renameStatement] ∧
      ∃ shapes, renameUsers.shapes numberedPlanner = .ok shapes ∧
        ∀ shape ∈ shapes, shape.BindsInPlace .postgres) ∧
    postsOfUsers.statement [.int 1] "en" .mysql = .ok postsStatement ∧
    (postsOfUsers.shape [.int 1] "en" .mysql).BindsInPlace .mysql := by
  have plain : Spec.empty.IsPlain := by
    constructor <;> simp [Spec.empty, Spec.projectionFor]
  have given : renameUsers.AllLeaves Leaf.TakesArguments := by
    rintro _ ⟨⟩ leaf member
    have listed : leaf ∈ [Leaf.compare "name" .eq (.text "a"), .inList "id" [.int 2, .int 3]] :=
      member
    simp only [List.mem_cons, List.not_mem_nil, or_false] at listed
    rcases listed with rfl | rfl <;> rintro _ ⟨⟩ <;> decide
  have sorted : IsPlainText numberedPlanner.settings.defaultSort := by decide
  have planned : renameUsers.plan numberedPlanner = .ok [renameStatement] := rfl
  obtain ⟨shapes, parts, _, bound⟩ := plan_binds_in_place.1 markedUsers .empty _ false
    numberedPlanner renameUsers _ rfl plain sorted given planned
  have loaded : postsOfUsers.statement [.int 1] "en" .mysql = .ok postsStatement := rfl
  have preloaded := (plan_binds_in_place.2 postsOfUsers _ _ _ _ (by rintro _ ⟨⟩) loaded).2
  exact ⟨⟨rfl, plain, sorted, given, planned, shapes, parts, bound⟩, loaded, preloaded⟩

end PlannedCall

end DataAccess
