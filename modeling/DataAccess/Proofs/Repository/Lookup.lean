import DataAccess.Proofs.Plan.Selection
import DataAccess.Proofs.Repository.Creation
import DataAccess.Proofs.Repository.Listing

/-! What the select means that reads a created row again. The comparison of the identity is tied to
the end of the caller's condition, so it binds to the last alternative of that condition only. -/
namespace DataAccess

open Sql

/-- The comparison of a column with one argument. -/
def equalAtom (column : String) : Atom := [.word column.toList, .operator ['='], .mark '?']

theorem Sql.tokens?_equal {column : String} (nonempty : column.toList ≠ [])
    (name : ∀ c ∈ column.toList, isNameChar c) :
    tokens? (column ++ " = ?").toList = some (equalAtom column) := by
  have behind : tokens? "= ?".toList = some [.operator ['='], .mark '?'] := rfl
  have tokens := tokens?_blank (tokens?_name nonempty name) behind
  have text : (column ++ " = ?").toList = column.toList ++ ' ' :: "= ?".toList := by
    rw [String.toList_append]
    rfl
  rw [text]
  exact tokens

/-- The comparison of a name is one unit, with its argument. -/
theorem Leaf.bound_equal {column : String} (nonempty : column.toList ≠ [])
    (name : ∀ c ∈ column.toList, isNameChar c) (operand : isOperand column) (value : Value) :
    (Leaf.compare column .eq value).IsPlain ∧
      (Leaf.compare column .eq value).bound = [(.and, .atom (equalAtom column, [value]))] := by
  have isColumn : isColumn column := by
    rw [Sql.isColumn, operand, tokens?_name nonempty name]
    rfl
  have plain : (Leaf.compare column .eq value).IsPlain := ⟨column, rfl, isColumn⟩
  have fragment : (Leaf.compare column .eq value).fragment = column ++ " = ?" := by
    simp only [Leaf.fragment, String.append_assoc]
    rfl
  refine ⟨plain, ?_⟩
  rw [Leaf.bound_of_plain plain, Leaf.atom, fragment, tokens?_equal nonempty name]
  rfl

theorem Condition.bound_and (condition operand : Condition) :
    (condition.and operand).bound = joinUnits .and operand.bound condition.bound := by
  cases condition <;> rfl

namespace Schema

variable {schema : Schema} {condition lookup owned : Condition} {source : IdSource} {reply : Reply}
  {id : schema.idType.Carrier}

theorem lookup_of_silent (looked : schema.lookup condition source reply = .ok lookup)
    (silent : source.reports reply = false) : lookup = condition := by
  unfold Schema.lookup at looked
  rw [silent, if_neg Bool.false_ne_true] at looked
  exact (Except.ok.inj looked).symm

theorem lookup_of_reported (looked : schema.lookup condition source reply = .ok lookup)
    (reported : source.reports reply = true) :
    ∃ carried id owned, source.identity reply = .ok carried ∧ schema.readId carried = .ok id ∧
      schema.idCondition id = .ok owned ∧ lookup = condition.and owned := by
  unfold Schema.lookup at looked
  rw [if_pos reported] at looked
  obtain ⟨carried, identity, looked⟩ := exists_of_bind looked
  obtain ⟨id, read, looked⟩ := exists_of_bind looked
  obtain ⟨owned, compared, looked⟩ := exists_of_bind looked
  exact ⟨carried, id, owned, identity, read, compared, (Except.ok.inj looked).symm⟩

/-- What the identity of a row is compared with. -/
def identityAtom (schema : Schema) (id : schema.idType.Carrier) : Atom × List Value :=
  (equalAtom (schema.qualified schema.idColumn), [(schema.idValue id).toValue])

/-- The condition that a row has an identity is one comparison. -/
theorem idCondition_spec (named : schema.IsNamed) (compared : schema.idCondition id = .ok owned) :
    (∀ leaf ∈ owned.leaves, leaf.IsPlain) ∧
      owned.bound = [(.and, .atom (schema.identityAtom id))] := by
  obtain ⟨column, found, compared⟩ := exists_of_bind compared
  obtain ⟨rfl, idNamed⟩ := identityColumn_eq found
  obtain rfl := Except.ok.inj compared
  have chars := isNameChar_of_qualified named.table idNamed
  obtain ⟨plain, bound⟩ := Leaf.bound_equal chars.1 chars.2
    (isOperand_qualified named.table idNamed) (schema.idValue id).toValue
  exact ⟨List.forall_mem_singleton.2 plain, bound⟩

end Schema

/-- What the select for a condition and an identity says of a row: beside the deletion marker, no
more than the condition, and exactly the condition of the row that has the identity. It says of every
row what the condition and the identity say together if and only if all alternatives of the
condition but the last imply the identity. -/
structure Planner.LooksUp {schema : Schema} (planner : Planner schema) (condition owned : Condition)
    (id : schema.idType.Carrier) {τ : Type} [Lattice τ] [BoundedOrder τ]
    (truth : Atom × List Value → τ) (joined : τ) : Prop where
  asked : (planner.visible (some (condition.and owned))).truth? truth =
    some (joined ⊓ planner.live truth)
  implies : joined ≤ chainTruth truth condition.bound
  owner : truth (schema.identityAtom id) = ⊤ → joined = chainTruth truth condition.bound
  restricts_iff : joined = chainTruth truth condition.bound ⊓ truth (schema.identityAtom id) ↔
    ∀ alternative ∈ (chainAlternatives truth condition.bound).dropLast,
      allOf alternative ≤ truth (schema.identityAtom id)

theorem Planner.looksUp {schema : Schema} (planner : Planner schema) (named : schema.IsNamed)
    {id : schema.idType.Carrier} {condition owned : Condition}
    (compared : schema.idCondition id = .ok owned)
    (formed : ∀ leaf ∈ condition.leaves, leaf.IsWellFormed)
    (takes : ∀ leaf ∈ condition.leaves, leaf.TakesArguments)
    {τ : Type} [DistribLattice τ] [BoundedOrder τ] (truth : Atom × List Value → τ) :
    planner.LooksUp condition owned id truth
      (chainTruth truth (joinUnits .and owned.bound condition.bound)) := by
  obtain ⟨plain, tied⟩ := Schema.idCondition_spec named compared
  have leaves : (condition.and owned).leaves = condition.leaves ++ owned.leaves :=
    Condition.leaves_append .and condition owned
  have formedAll : ∀ leaf ∈ (condition.and owned).leaves, leaf.IsWellFormed := by
    rw [leaves]
    exact List.forall_mem_append.2 ⟨formed, fun leaf member => (plain leaf member).isWellFormed⟩
  have takesAll : ∀ leaf ∈ (condition.and owned).leaves, leaf.TakesArguments := by
    rw [leaves]
    exact List.forall_mem_append.2 ⟨takes, fun leaf member => (plain leaf member).takesArguments⟩
  have unrestricted : ({ planner.wholeTable with joins := planner.spec.joins } : Query).clauses = [] :=
    rfl
  have whole := planner.truth?_restrict named unrestricted formedAll takesAll truth
  have single : chainTruth truth owned.bound = truth (schema.identityAtom id) := by
    rw [tied]
    rfl
  have restriction := chainTruth_joinUnits_iff truth owned.bound condition.bound
  rw [Condition.bound_and] at whole
  rw [single] at restriction
  refine ⟨whole, chainTruth_joinUnits_le truth _ _, fun holds => ?_, restriction⟩
  have restricted := restriction.2 fun alternative _ => holds ▸ le_top
  rw [restricted, holds, inf_top_eq]

namespace Insertion

variable {schema : Schema} {insertion : Insertion schema}

/-- A select that reads a created row again is planned for the caller's condition and the identity
that the backend has reported. -/
theorem rereading_of_created {condition : Condition} {locale : String} {opened : Session}
    {reading : Rereading} (reads : insertion.rereading condition locale opened = .ok reading)
    (created : reading.created = true) :
    ∃ reply carried id owned, (insertion.asked opened).hearing = .ok reply ∧
      insertion.write.id.identity reply = .ok carried ∧ schema.readId carried = .ok id ∧
      schema.idCondition id = .ok owned ∧
      insertion.planner.first (some (condition.and owned)) locale = .ok reading.select := by
  obtain ⟨reply, lookup, hearing, reported, looked, planned, _⟩ := heard_of_rereading reads
  obtain ⟨carried, id, owned, identity, read, compared, rfl⟩ :=
    Schema.lookup_of_reported looked (reported.symm.trans created)
  exact ⟨reply, carried, id, owned, hearing, identity, read, compared, planned⟩

end Insertion

namespace Repository

variable {schema : Schema} {repository : Repository schema} {condition : Condition}
  {row : Row schema} {options : ReadOptions}

/-- The select that reads a created row again follows the insertion, and asks for the deletion
marker and for the caller's condition with the identity tied to its last alternative. It implies the
condition, and it is the conjunction of both exactly if every other alternative implies the
identity; whatever the alternatives are, exactly if the condition has no `OR` outside
parentheses. -/
theorem reread_of_created_means {handle : TransactionHandle} {opened : Session}
    (bound : repository.binding = .transaction handle) (isOpen : handle ∈ opened.active)
    (formed : ∀ leaf ∈ condition.leaves, leaf.IsWellFormed)
    (takes : ∀ leaf ∈ condition.leaves, leaf.TakesArguments)
    {insertion : Insertion schema} {reading : Rereading}
    (inserts : repository.insertion condition row options opened = .ok insertion)
    (reads : insertion.rereading condition (repository.localeIn opened) opened = .ok reading)
    (created : reading.created = true) :
    (∃ queries result after,
      (repository.findOrCreateIn condition row options).run.run opened = (result, after) ∧
      after.exchange.log =
        opened.exchange.log ++ insertion.event :: reading.event :: queries) ∧
    condition.compile.Reads condition.bound ∧
    ∃ reply carried id owned, (insertion.asked opened).hearing = .ok reply ∧
      insertion.write.id.identity reply = .ok carried ∧ schema.readId carried = .ok id ∧
      schema.idCondition id = .ok owned ∧
      insertion.planner.first (some (condition.and owned)) (repository.localeIn opened) =
        .ok reading.select ∧
      reading.select = Fragment.render
        ⟨"SELECT " ++ insertion.planner.selectList false (repository.localeIn opened) ++
          (insertion.planner.visible (some (condition.and owned))).source.sql ++
          schema.leastRowText,
          (insertion.planner.visible (some (condition.and owned))).source.args⟩
        insertion.planner.dialect ∧
      (∀ (τ : Type) [DistribLattice τ] [BoundedOrder τ] (truth : Atom × List Value → τ),
        insertion.planner.LooksUp condition owned id truth
          (chainTruth truth (joinUnits .and owned.bound condition.bound))) ∧
      (Restricts owned.bound condition.bound ↔
        ∀ unit ∈ condition.bound.tail, unit.1 = .and) := by
  obtain ⟨statements, result, after, course, ran, logged⟩ :=
    course_of_open condition row options bound isOpen
  obtain ⟨_, _, _, queries, _, _, rfl, _⟩ := course.of_rereading inserts reads
  refine ⟨⟨queries, result, after, ran, logged⟩, Condition.reads_compile formed takes, ?_⟩
  obtain ⟨reply, carried, id, owned, hearing, identity, read, compared, planned⟩ :=
    Insertion.rereading_of_created reads created
  obtain ⟨made, _⟩ := planned_of_insertion inserts
  have named := Planner.isNamed_of_make made
  refine ⟨reply, carried, id, owned, hearing, identity, read, compared, planned,
    Planner.first_eq_select planned, ?_, ?_⟩
  · intro τ _ _ truth
    exact insertion.planner.looksUp named compared formed takes truth
  · rw [restricts_iff, (Schema.idCondition_spec named compared).2]
    simp

/-- Users with an owner. -/
def ownedSchema : Schema :=
  ⟨"users", .i64, "id", ["id", "owner"], none, none, [("id", .id), ("owner", .int)]⟩

def ownedUsers : Repository ownedSchema := ⟨.empty, .default, .pool⟩

def ownedByThree : Row ownedSchema := ⟨(0 : Int64), [("owner", .int 3)], .empty⟩

/-- A session whose backend reports that it has inserted row 1, and then finds row 7, which another
writer has inserted meanwhile. -/
def overtaken : Session :=
  { Session.fresh with
    exchange := { Exchange.silent with
      replies := [{ Reply.empty with rows := [[("id", .bigint 1)]] },
        { Reply.empty with rows := [[("id", .bigint 7), ("owner", .bigint 1)]] }] } }

def overtakenOpened : Session := (Engine.beginTransaction.run.run overtaken).2

theorem reread_of_created_means_of_owner :
    let condition := Condition.eq "owner" (.int 3)
    ∃ insertion reading,
      (ownedUsers.join ⟨0⟩).insertion condition ownedByThree .default overtakenOpened =
        .ok insertion ∧
      insertion.rereading condition ((ownedUsers.join ⟨0⟩).localeIn overtakenOpened)
        overtakenOpened = .ok reading ∧
      reading.created = true ∧
      ∃ id owned, ownedSchema.idCondition id = .ok owned ∧
        Restricts owned.bound condition.bound := by
  intro condition
  have bound : (ownedUsers.join ⟨0⟩).binding = .transaction ⟨0⟩ := rfl
  have isOpen : ⟨0⟩ ∈ overtakenOpened.active := List.mem_singleton_self _
  have plain : (Leaf.compare "owner" .eq (.int 3)).IsPlain := ⟨"owner", rfl, rfl⟩
  have formed : ∀ leaf ∈ condition.leaves, leaf.IsWellFormed :=
    List.forall_mem_singleton.2 plain.isWellFormed
  have takes : ∀ leaf ∈ condition.leaves, leaf.TakesArguments :=
    List.forall_mem_singleton.2 plain.takesArguments
  have whole : (do
      let insertion ←
        (ownedUsers.join ⟨0⟩).insertion condition ownedByThree .default overtakenOpened
      let reading ← insertion.rereading condition
        ((ownedUsers.join ⟨0⟩).localeIn overtakenOpened) overtakenOpened
      return reading.created : Except DataError Bool) = .ok true := by
    decide +kernel
  obtain ⟨insertion, inserts, whole⟩ := exists_of_bind whole
  obtain ⟨reading, reads, whole⟩ := exists_of_bind whole
  have created : reading.created = true := Except.ok.inj whole
  obtain ⟨_, _, _, _, id, owned, _, _, _, compared, _, _, _, restricts⟩ :=
    reread_of_created_means bound isOpen formed takes inserts reads created
  refine ⟨insertion, reading, inserts, reads, created, id, owned, compared, restricts.2 ?_⟩
  have one : condition.bound = [(.and, .atom ((Leaf.compare "owner" .eq (.int 3)).atom,
      (Leaf.compare "owner" .eq (.int 3)).args))] := Leaf.bound_of_plain plain
  rw [one]
  exact nofun

def eitherOwner : Condition := (Condition.eq "owner" (.int 1)).or (.eq "owner" (.int 2))

def overtakenRun : Except DataError (Row ownedSchema × Bool) × Session :=
  (ownedUsers.findOrCreate eitherOwner ownedByThree .default).run.run overtaken

def overtakenEvents : List Event :=
  [.begin,
    .statement ("INSERT INTO users (owner) SELECT ? WHERE NOT EXISTS " ++
      "(SELECT 1 FROM users WHERE owner = ? OR owner = ?) RETURNING id") [.int 3, .int 1, .int 2],
    .statement ("SELECT * FROM users WHERE owner = ? OR owner = ? AND users.id = ? " ++
      "ORDER BY users.id ASC LIMIT 1") [.int 1, .int 2, .int 1],
    .commit]

/-- With an alternative in front, the identity is lost on it: a row of that owner is returned as the
created one, and the row that has been inserted does not even satisfy the condition. -/
theorem reread_returns_other_row :
    (overtakenRun.1.map fun answer => ((answer.1.id : Int64), answer.2)) = .ok (7, true) ∧
    overtakenRun.2.exchange.log = overtakenEvents ∧
    ∃ whole caller identity, parse? "owner = ? OR owner = ? AND users.id = ?" = some whole ∧
      parse? eitherOwner.compile.sql = some caller ∧ parse? "users.id = ?" = some identity ∧
      ∃ truth : Atom × List Value → Bool,
        (whole.supply arity [.int 1, .int 2, .int 1]).1.eval truth = true ∧
        (Formula.and (caller.supply arity [.int 1, .int 2]).1
          (identity.supply arity [.int 1]).1).eval truth = false := by
  have ended : ((overtakenRun.1.map fun answer => ((answer.1.id : Int64), answer.2)),
      overtakenRun.2.exchange.log) = (.ok (7, true), overtakenEvents) := by
    decide +kernel
  obtain ⟨answered, logged⟩ := Prod.mk.inj ended
  refine ⟨answered, logged, _, _, _, rfl, rfl, rfl,
    fun atom => atom.1.head? == some (.word "owner".toList), ?_⟩
  exact ⟨rfl, rfl⟩

end Repository

end DataAccess
