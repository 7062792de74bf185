import DataAccess.Proofs.Plan.Call
import DataAccess.Proofs.Sql.Identifier

/-! Deleted rows stay hidden. Whatever a caller's condition says, the predicate of a statement that
hides deleted rows is that condition and that the marker is null. -/
namespace DataAccess

open Sql

def nullAtom (column : String) : Atom :=
  [.word column.toList, .word "IS".toList, .word "NULL".toList]

theorem parse?_isNull {table column : String} (tableNamed : isIdentifier table false)
    (columnNamed : isIdentifier column false) :
    parse? (table ++ "." ++ column ++ " IS NULL") =
      some (.atom (nullAtom (table ++ "." ++ column))) := by
  have chars := isNameChar_of_qualified tableNamed columnNamed
  have null : tokens? "IS NULL".toList = some [.word "IS".toList, .word "NULL".toList] := rfl
  have tokens := tokens?_blank (tokens?_name chars.1 chars.2) null
  have text : (table ++ "." ++ column ++ " IS NULL").toList =
      (table ++ "." ++ column).toList ++ ' ' :: "IS NULL".toList := by
    rw [String.toList_append]
    rfl
  rw [← text] at tokens
  have read := units?_isNull (isOperand_qualified tableNamed columnNamed)
  rw [tokens] at read
  exact parse?_of_units? read rfl

/-- What may stand behind a predicate without being part of it: nothing, or a text that begins
another clause or ends a select in parentheses. -/
inductive EndsPredicate : String → Prop
  | empty : EndsPredicate ""
  | group (rest : String) : EndsPredicate (" GROUP BY " ++ rest)
  | order (rest : String) : EndsPredicate (" ORDER BY " ++ rest)
  | limit (rest : String) : EndsPredicate (" LIMIT " ++ rest)
  | offset (rest : String) : EndsPredicate (" OFFSET " ++ rest)
  | close (rest : String) : EndsPredicate (")" ++ rest)

namespace Shape

variable {query : Query} {restrictions : List Restriction} {columns : String}

theorem endsPredicate_windowText : EndsPredicate query.windowText := by
  unfold Query.windowText
  cases query.limit with
  | some limit =>
    dsimp only
    rw [String.append_assoc]
    exact .limit _
  | none =>
    rw [String.empty_append]
    cases query.offset with
    | some offset => exact .offset _
    | none => exact .empty

theorem endsPredicate_select : EndsPredicate (select query restrictions columns).tail := by
  unfold select
  dsimp only
  unfold Query.groupText Query.orderText
  split
  · rw [String.empty_append]
    split
    · rw [String.empty_append]
      exact endsPredicate_windowText
    · rw [String.append_assoc]
      exact .order _
  · rw [String.append_assoc, String.append_assoc]
    exact .group _

theorem endsPredicate_count : EndsPredicate (count query restrictions).tail := by
  unfold count
  split
  · exact .empty
  · next grouped =>
    dsimp only
    rw [Query.groupText, if_neg grouped, String.append_assoc]
    exact .group _

end Shape

/-- A condition with a leaf that is read, beside a marker that must be null. -/
theorem Shape.template_ofScope {shape : Shape} {condition : Option Condition}
    {table marker : String}
    (tableNamed : isIdentifier table false) (markerNamed : isIdentifier marker false)
    (formed : ∀ given ∈ condition, ∀ leaf ∈ given.leaves, leaf.IsWellFormed)
    (restricted :
      shape.restrictions = Restriction.ofScope condition (some (table ++ "." ++ marker))) :
    ∃ predicate : Fragment,
      shape.template = ⟨shape.head.fragment.sql ++ " WHERE " ++ predicate.sql ++ shape.tail,
        shape.head.fragment.args ++ predicate.args⟩ ∧
      parse? predicate.sql = Formula.conjunction?
        ((condition.bind fun given => parse? given.compile.sql).toList ++
          [.atom (nullAtom (table ++ "." ++ marker))]) := by
  have restrictionsFormed : ∀ restriction ∈ shape.restrictions, restriction.IsWellFormed := by
    rw [restricted]
    refine Restriction.forall_ofScope.2 ⟨formed, ?_⟩
    rintro _ ⟨⟩
    exact isOperand_qualified tableNamed markerNamed
  have read := (Restriction.parse?_predicate restrictionsFormed).2
  have formulas : (shape.restrictions.filterMap fun restriction => parse? restriction.text) =
      (condition.bind fun given => parse? given.compile.sql).toList ++
        [.atom (nullAtom (table ++ "." ++ marker))] := by
    rw [restricted, Restriction.ofScope, List.filterMap_append]
    have marks := parse?_isNull tableNamed markerNamed
    cases condition with
    | none => simp [Restriction.text, marks]
    | some given => cases alone : parse? given.compile.sql <;> simp [Restriction.text, marks, alone]
  rw [formulas] at read
  unfold template
  cases whole : Restriction.predicate? shape.restrictions with
  | none =>
    rw [whole, Option.bind_none, Formula.conjunction?, eq_comm, Formula.ofChain?_eq_none,
      List.map_eq_nil_iff] at read
    simp at read
  | some predicate =>
    rw [whole] at read
    exact ⟨predicate, rfl, read⟩

namespace PlannedCall

variable {schema : Schema}

/-- Whether a call hides deleted rows. A deletion of a marked entity always does. -/
def hidesDeleted (unscoped : Bool) : PlannedCall schema → Bool
  | delete _ => true
  | purge _ | restore _ | insert _ | upsert _ _ _ => false
  | _ => !unscoped

/-- Every statement that hides deleted rows is restricted to the caller's condition and the marker,
and nothing behind them is part of the predicate. -/
theorem restrictions_of_hidesDeleted {planner : Planner schema} {marker : String}
    (marked : schema.softDelete = some marker) {call : PlannedCall schema} {shapes : List Shape}
    (hides : call.hidesDeleted planner.unscoped) (planned : call.shapes planner = .ok shapes) :
    ∀ shape ∈ shapes, shape.restrictions =
        Restriction.ofScope call.condition? (some (schema.qualified marker)) ∧
      EndsPredicate shape.tail := by
  have visible (unscoped : planner.unscoped = false) (condition : Option Condition) :
      planner.restrictions condition =
        Restriction.ofScope condition (some (schema.qualified marker)) := by
    simp [Planner.restrictions, Planner.scope?, unscoped, marked]
  have hidden (visible : (!planner.unscoped) = true) : planner.unscoped = false := by
    simpa using visible
  cases call with
  | delete condition =>
    cases planned
    simp [Schema.deleteShape, marked, condition?, EndsPredicate.empty]
  | purge | restore | insert | upsert => contradiction
  | listing condition request locale counted =>
    cases planned
    rw [condition?, ← visible (hidden hides)]
    refine List.forall_mem_cons.2 ⟨⟨rfl, Shape.endsPredicate_select⟩, ?_⟩
    cases counted with
    | false => exact List.forall_mem_nil _
    | true =>
      exact List.forall_mem_singleton.2 ⟨Shape.restrictions_count, Shape.endsPredicate_count⟩
  | first condition locale =>
    obtain ⟨_, rfl⟩ := shapes_first planner planned
    exact List.forall_mem_singleton.2 ⟨visible (hidden hides) _, Shape.endsPredicate_select⟩
  | byId identity locale =>
    obtain ⟨_, rfl⟩ := shapes_byId planner planned
    exact List.forall_mem_singleton.2 ⟨visible (hidden hides) _, Shape.endsPredicate_select⟩
  | byIds identities locale =>
    obtain ⟨_, rfl⟩ := shapes_byIds planner planned
    exact List.forall_mem_singleton.2 ⟨visible (hidden hides) _, Shape.endsPredicate_select⟩
  | count condition =>
    cases planned
    rw [condition?, ← visible (hidden hides)]
    exact List.forall_mem_singleton.2 ⟨Shape.restrictions_count, Shape.endsPredicate_count⟩
  | pluck column condition =>
    obtain ⟨_, rfl⟩ := shapes_pluck planner planned
    exact List.forall_mem_singleton.2 ⟨visible (hidden hides) _, Shape.endsPredicate_select⟩
  | update condition changes =>
    obtain ⟨_, rfl⟩ := shapes_update planner planned
    exact List.forall_mem_singleton.2 ⟨visible (hidden hides) _, .empty⟩
  | findOrCreate condition row =>
    obtain ⟨_, _, source, rfl⟩ := shapes_findOrCreate planner planned
    refine List.forall_mem_singleton.2 ⟨visible (hidden hides) _, ?_⟩
    rw [Planner.guardedShape]
    dsimp only
    rw [String.append_assoc]
    exact .close _

/-- A predicate is the conjunction of what a query is restricted to, and a statement that hides
deleted rows is restricted to its condition and to the rows whose marker is null. -/
theorem plan_keeps_scope :
    (∀ (query : Query) (restrictions : List Restriction), query.clauses = [] →
      (∀ restriction ∈ restrictions, restriction.IsWellFormed) →
      ((restrictions.foldl Query.add query).predicate? = none ↔
        ∀ restriction ∈ restrictions, restriction.text = "") ∧
      ((restrictions.foldl Query.add query).predicate?.bind fun predicate =>
        parse? predicate.sql) =
        Formula.conjunction? (restrictions.filterMap fun restriction => parse? restriction.text)) ∧
    (∀ (schema : Schema) (spec : Spec) (settings : Settings) (unscoped : Bool)
      (planner : Planner schema) (marker : String) (call : PlannedCall schema)
      (statements : List Statement),
      Planner.make schema spec settings unscoped = .ok planner →
      schema.softDelete = some marker →
      call.hidesDeleted (unscoped || spec.unscoped) →
      call.AllLeaves Leaf.IsWellFormed →
      call.plan planner = .ok statements →
      (∀ condition ∈ call.condition?,
        condition.compile.sql = "" ∨ (parse? condition.compile.sql).isSome) ∧
      ∃ shapes, call.shapes planner = .ok shapes ∧
        statements = shapes.map (·.statement settings.dialect) ∧
        ∀ shape ∈ shapes, EndsPredicate shape.tail ∧ ∃ predicate : Fragment,
          shape.template = ⟨shape.head.fragment.sql ++ " WHERE " ++ predicate.sql ++ shape.tail,
            shape.head.fragment.args ++ predicate.args⟩ ∧
          parse? predicate.sql = Formula.conjunction?
            ((call.condition?.bind fun condition => parse? condition.compile.sql).toList ++
              [.atom (nullAtom (schema.qualified marker))])) := by
  refine ⟨fun query restrictions unrestricted formed => ?_, ?_⟩
  · rw [Query.predicate?_foldl_add unrestricted]
    exact Restriction.parse?_predicate formed
  · intro schema spec settings unscoped planner marker call statements made marked hides formed
      planned
    obtain ⟨rfl, tableNamed, markerNamed⟩ := Planner.make_eq made
    obtain ⟨shapes, parts, rfl⟩ := shapes_of_plan planned
    have onIdentity (leaf : Leaf) (idNamed : isIdentifier schema.idColumn false)
        (on : leaf.column? = some (schema.qualified schema.idColumn)) : leaf.IsWellFormed := by
      simp only [Leaf.IsWellFormed, on]
      exact isOperand_qualified tableNamed idNamed
    have formedCondition := forall_leaves onIdentity formed parts
    have restricted := restrictions_of_hidesDeleted marked hides parts
    refine ⟨fun condition given => ?_, shapes, parts, rfl, fun shape member => ?_⟩
    · rcases Restriction.clause?_isRead (.holds condition)
        (formedCondition condition given) with ⟨blank, _⟩ | ⟨_, _, formula, _, parsed, _⟩
      · exact .inl blank
      · exact .inr (Option.isSome_of_eq_some parsed)
    · obtain ⟨within, ends⟩ := restricted shape member
      exact ⟨ends,
        Shape.template_ofScope tableNamed (markerNamed marker marked) formedCondition within⟩

/-- Users with a deletion marker. -/
def markedUsers : Schema := ⟨"users", .i64, "id", ["id"], some "deleted_at", none, []⟩

theorem plan_keeps_scope_of_count :
    let planner : Planner markedUsers := ⟨.empty, .default, false⟩
    let condition := (Condition.eq "a" (.int 1)).or (.eq "b" (.int 2))
    let call : PlannedCall markedUsers := .count (some condition)
    Planner.make markedUsers .empty .default false = .ok planner ∧
    call.AllLeaves Leaf.IsWellFormed ∧
    ∃ shape, call.shapes planner = .ok [shape] ∧ EndsPredicate shape.tail ∧ ∃ predicate : Fragment,
      shape.template = ⟨shape.head.fragment.sql ++ " WHERE " ++ predicate.sql ++ shape.tail,
        shape.head.fragment.args ++ predicate.args⟩ ∧
      parse? predicate.sql = Formula.conjunction?
        ((parse? condition.compile.sql).toList ++ [.atom (nullAtom "users.deleted_at")]) := by
  intro planner condition call
  have formed : call.AllLeaves Leaf.IsWellFormed := by
    rintro _ ⟨⟩ leaf member
    have listed : leaf ∈ [Leaf.compare "a" .eq (.int 1), .compare "b" .eq (.int 2)] := member
    simp only [List.mem_cons, List.not_mem_nil, or_false] at listed
    rcases listed with rfl | rfl <;> rfl
  obtain ⟨_, shapes, parts, _, kept⟩ := plan_keeps_scope.2 markedUsers .empty .default false planner
    "deleted_at" call _ rfl rfl rfl formed rfl
  cases parts
  obtain ⟨ends, predicate, template, read⟩ := kept _ (List.mem_singleton_self _)
  exact ⟨rfl, formed, _, rfl, ends, predicate, template, read⟩

/-- A column that is no operand, but two of them, takes the marker out of the conjunction: the
predicate holds of a deleted row. -/
theorem count_escapes_scope_by_column :
    let planner : Planner markedUsers := ⟨.empty, .default, false⟩
    let condition := Condition.eq "a = 1 OR b" (.int 2)
    Planner.make markedUsers .empty .default false = .ok planner ∧
    planner.count (some condition) =
      ⟨"SELECT COUNT(*) FROM users WHERE a = 1 OR b = ? AND users.deleted_at IS NULL", [.int 2]⟩ ∧
    ∃ whole alone marker, parse? "a = 1 OR b = ? AND users.deleted_at IS NULL" = some whole ∧
      parse? condition.compile.sql = some alone ∧
      parse? "users.deleted_at IS NULL" = some marker ∧
      ∃ truth : Atom → Bool,
        whole.eval truth = true ∧ (Formula.and alone marker).eval truth = false := by
  refine ⟨rfl, rfl, _, _, _, rfl, rfl, rfl, fun atom => atom.head? == some (.word "a".toList), ?_⟩
  exact ⟨rfl, rfl⟩

end PlannedCall

end DataAccess
