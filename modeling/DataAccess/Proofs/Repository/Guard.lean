import DataAccess.Proofs.Repository.Loading
import DataAccess.Proofs.Repository.Lookup

/-! The guard of an insertion, and the select that reads the row again. Both state the condition and
the deletion marker in the same words, with the same arguments, but only the select has the joins of
the specification. Without joins they look at the same rows: a call that no other writer disturbs
finds again what its guard has found, or what it has written. -/
namespace DataAccess

open Sql

namespace Query

/-- The text of joins is empty only if there are none: each begins with a blank. -/
theorem joinText_eq_empty {joins : List String} :
    String.join (joins.map (" " ++ ·)) = "" ↔ joins = [] := by
  cases joins with
  | nil => simp
  | cons clause rest => simp [String.append_eq_empty_iff]

theorem source_joins_eq_iff {query : Query} (unjoined : query.joins = []) (joins : List String) :
    { query with joins }.source = query.source ↔ joins = [] := by
  have same : { query with joins }.predicate? = query.predicate? := rfl
  rw [source, source, same, unjoined, ← joinText_eq_empty]
  cases query.predicate? <;> simp

end Query

namespace Planner

variable {schema : Schema} (planner : Planner schema) (condition : Option Condition)

theorem joins_guardQuery : (planner.guardQuery condition).joins = [] := by
  unfold guardQuery Query.restrict
  cases condition <;> cases planner.scope? <;> rfl

/-- What a select reads is what a guard looks at, with the joins of the specification. -/
theorem visible_eq : planner.visible condition =
    { planner.guardQuery condition with joins := planner.spec.joins } := by
  unfold visible guardQuery Query.restrict
  cases condition <;> cases planner.scope? <;> rfl

theorem predicate?_visible_eq_guard :
    (planner.visible condition).predicate? = (planner.guardQuery condition).predicate? :=
  (planner.predicate?_visible condition).trans (planner.predicate?_guardQuery condition).symm

theorem source_visible_eq_guard_iff :
    (planner.visible condition).source = (planner.guardQuery condition).source ↔
      planner.spec.joins = [] := by
  rw [visible_eq]
  exact Query.source_joins_eq_iff (planner.joins_guardQuery condition) planner.spec.joins

/-- What an insertion says before its guard. -/
def guardedHead (row : Row schema) : String :=
  (if planner.dialect = .mysql then "INSERT IGNORE" else "INSERT") ++ " INTO " ++ schema.table ++
    " (" ++ ", ".intercalate (row.values.map Prod.fst) ++ ") SELECT " ++
    placeholders row.values.length ++ (if planner.dialect = .mysql then " FROM DUAL" else "")

/-- What an insertion says behind its guard, by where its identity comes from. -/
def guardedTail (source : IdSource) : String :=
  (if planner.dialect = .postgres then " ON CONFLICT DO NOTHING" else "") ++
    source.returningText schema.idColumn

/-- A guarded insertion has the values of the row, and the table and the restrictions of its guard. -/
theorem findOrCreate_eq {planner : Planner schema} {condition : Option Condition} {row : Row schema}
    {write : Write} (planned : planner.findOrCreate condition row = .ok write) :
    write.statement = Fragment.render
      ⟨planner.guardedHead row ++ " WHERE NOT EXISTS (SELECT 1" ++
        (planner.guardQuery condition).source.sql ++ ")" ++ planner.guardedTail write.id,
        row.values.map Prod.snd ++ (planner.guardQuery condition).source.args⟩ planner.dialect := by
  obtain ⟨_, _, planned⟩ := exists_of_bind planned
  obtain ⟨source, _, planned⟩ := exists_of_bind planned
  obtain rfl := Except.ok.inj planned
  have whole : planner.guardedInsert condition row source =
      ⟨planner.guardedHead row ++ " WHERE NOT EXISTS (SELECT 1" ++
        (planner.guardQuery condition).source.sql ++ ")" ++ planner.guardedTail source,
        row.values.map Prod.snd ++ (planner.guardQuery condition).source.args⟩ := by
    unfold guardedInsert guardedHead guardedTail
    by_cases mysql : planner.dialect = .mysql <;> simp [mysql, String.append_assoc]
  rw [whole]

end Planner

section Looking

variable {schema : Schema} {planner : Planner schema} {condition owned : Condition}
  {id : schema.idType.Carrier} {τ : Type} [DistribLattice τ] [BoundedOrder τ]

/-- What reads a created row again keeps only rows that the guard keeps, and of the row that has the
identity it says the same. -/
theorem Planner.keeps_lookup (named : schema.IsNamed) (compared : schema.idCondition id = .ok owned)
    (formed : ∀ leaf ∈ condition.leaves, leaf.IsWellFormed)
    (takes : ∀ leaf ∈ condition.leaves, leaf.TakesArguments) (truth : Atom × List Value → τ) :
    ((planner.visible (some (condition.and owned))).Keeps truth →
      (planner.guardQuery (some condition)).Keeps truth) ∧
    (truth (schema.identityAtom id) = ⊤ → (planner.guardQuery (some condition)).Keeps truth →
      (planner.visible (some (condition.and owned))).Keeps truth) := by
  have looks := planner.looksUp named compared formed takes truth
  have unrestricted : planner.wholeTable.clauses = [] := rfl
  have guard : (planner.guardQuery (some condition)).truth? truth = _ :=
    planner.truth?_restrict named unrestricted formed takes truth
  simp only [Query.Keeps, looks.asked, guard, Option.some.injEq, inf_eq_top_iff]
  refine ⟨fun ⟨joined, live⟩ => ⟨top_le_iff.1 (joined ▸ looks.implies), live⟩, ?_⟩
  exact fun owns ⟨kept, live⟩ => ⟨(looks.owner owns).trans kept, live⟩

end Looking

/-- The reply to the second statement of a call. -/
def Session.secondReply (opened : Session) : Reply :=
  (opened.exchange.replies.drop 1).headD .empty

/-- The rows of a table as a backend has them: what comparisons say of a row, and how a row is
shown. -/
structure Contents (σ τ : Type) where
  truth : σ → Atom × List Value → τ
  shown : σ → ResultRow

namespace Contents

variable {σ τ : Type} [Lattice τ] [BoundedOrder τ] (contents : Contents σ τ) {schema : Schema}

/-- What a backend replies to a query for one of its rows: nothing but rows that the query keeps,
and one of them if there is any. -/
structure Answers (query : Query) (stored : List σ) (reply : Reply) : Prop where
  shows : ∀ shown ∈ reply.rows, ∃ row ∈ stored,
    query.Keeps (contents.truth row) ∧ shown = contents.shown row
  finds : (∃ row ∈ stored, query.Keeps (contents.truth row)) → reply.rows ≠ []

/-- The answer of a call that has read a row again: the error of a load that has failed, which is no
verdict on the row, or one of the rows that are looked for. -/
inductive Returns (sought : σ → Prop) (created : Bool) :
    Except DataError (List (Row schema)) → Except DataError (Row schema × Bool) → Prop
  | unloaded {error : DataError} (impartial : error.isVerdict = false) :
    Returns sought created (.error error) (.error error)
  | found {row : Row schema} {rest : List (Row schema)} {stored : σ} (known : sought stored)
    (shows : (contents.shown stored).Shows row) :
    Returns sought created (.ok (row :: rest)) (.ok (row, created))

variable {contents} {query : Query} {stored : List σ} {reply : Reply}
  {loaded : Except DataError (List (Row schema))}

theorem Answers.returns (answers : contents.Answers query stored reply)
    (loads : Impartial (List.Forall₂ ResultRow.Shows reply.rows) loaded)
    (kept : ∃ row ∈ stored, query.Keeps (contents.truth row)) {sought : σ → Prop}
    (known : ∀ row ∈ stored, query.Keeps (contents.truth row) → sought row) (created : Bool) :
    contents.Returns sought created loaded (loaded >>= schema.answer created) := by
  cases loaded with
  | error error => exact .unloaded loads
  | ok rows =>
    have finds := answers.finds kept
    have sound := answers.shows
    change List.Forall₂ ResultRow.Shows reply.rows rows at loads
    generalize reply.rows = shown at loads finds sound
    cases loads with
    | nil => exact absurd rfl finds
    | cons shows _ =>
      obtain ⟨row, listed, keeps, rfl⟩ := sound _ List.mem_cons_self
      exact .found (known row listed keeps) shows

theorem Answers.eq_nil (answers : contents.Answers query stored reply)
    {rows : List (Row schema)} (loads : List.Forall₂ ResultRow.Shows reply.rows rows)
    (unseen : ∀ row ∈ stored, ¬query.Keeps (contents.truth row)) : rows = [] := by
  have sound := answers.shows
  generalize reply.rows = shown at loads sound
  cases loads with
  | nil => rfl
  | cons _ _ =>
    obtain ⟨row, listed, keeps, _⟩ := sound _ List.mem_cons_self
    exact absurd keeps (unseen row listed)

end Contents

namespace Insertion

variable {schema : Schema} (insertion : Insertion schema)

/-- What the insertion is guarded by. -/
def guard (condition : Condition) : Query := insertion.planner.guardQuery (some condition)

/-- What reads the row again that a condition looks up. -/
def query (lookup : Condition) : Query := insertion.planner.visible (some lookup)

theorem query_eq_guard {insertion : Insertion schema} (unjoined : insertion.planner.spec.joins = [])
    (condition : Condition) : insertion.query condition = insertion.guard condition := by
  rw [query, Planner.visible_eq, unjoined, guard,
    ← insertion.planner.joins_guardQuery (some condition)]

/-- The identity that the reply to the insertion reports. -/
def reported (opened : Session) : Except DataError schema.idType.Carrier := do
  let reply ← (insertion.asked opened).hearing
  schema.readId (← insertion.write.id.identity reply)

/-- What is sent states the guard and the query that reads the row again. For the caller's condition
the two have the same restrictions, and the same tables if and only if there are no joins. -/
structure Mirrors (condition lookup : Condition) (row : Row schema) (locale : String)
    (reading : Rereading) : Prop where
  guards : insertion.write.statement = Fragment.render
    ⟨insertion.planner.guardedHead row ++ " WHERE NOT EXISTS (SELECT 1" ++
      (insertion.guard condition).source.sql ++ ")" ++
      insertion.planner.guardedTail insertion.write.id,
      row.values.map Prod.snd ++ (insertion.guard condition).source.args⟩ insertion.planner.dialect
  selects : reading.select = Fragment.render
    ⟨"SELECT " ++ insertion.planner.selectList false locale ++
      (insertion.query lookup).source.sql ++ schema.leastRowText,
      (insertion.query lookup).source.args⟩ insertion.planner.dialect
  found : reading.created = false → lookup = condition
  predicate : (insertion.query condition).predicate? = (insertion.guard condition).predicate?
  source_iff : (insertion.query condition).source = (insertion.guard condition).source ↔
    insertion.planner.spec.joins = []

section Undisturbed

variable (condition lookup : Condition) (opened : Session) {σ τ : Type} [Lattice τ]
  [BoundedOrder τ] (contents : Contents σ τ) (stored : List σ)

/-- The insertion writes a row beside stored rows that its guard does not keep, reports the identity
of that row, and nothing else has changed when the row is read again. -/
structure Writes (created : σ) : Prop where
  unseen : ∀ row ∈ stored, ¬(insertion.guard condition).Keeps (contents.truth row)
  reported : ∃ id, insertion.reported opened = .ok id ∧
    contents.truth created (schema.identityAtom id) = ⊤
  answers : contents.Answers (insertion.query lookup) (created :: stored) opened.secondReply

/-- What a call answers among stored rows that no other writer changes. If its guard has found a
row, it returns one that the guard keeps. If it has written a row, it returns this one, or it refuses
the row because it does not satisfy the condition. -/
structure Agrees (reading : Rereading) (loaded : Except DataError (List (Row schema)))
    (result : Except DataError (Row schema × Bool)) : Prop where
  suppressed : reading.created = false →
    (∃ row ∈ stored, (insertion.guard condition).Keeps (contents.truth row)) →
    contents.Answers (insertion.query lookup) stored opened.secondReply →
    contents.Returns
      (fun row => row ∈ stored ∧ (insertion.guard condition).Keeps (contents.truth row))
      false loaded result
  written : reading.created = true →
    ∀ created, insertion.Writes condition lookup opened contents stored created →
      (insertion.guard condition).Keeps (contents.truth created) →
      contents.Returns (· = created) true loaded result
  refused : reading.created = true →
    ∀ created, insertion.Writes condition lookup opened contents stored created →
      ¬(insertion.guard condition).Keeps (contents.truth created) →
      ∀ rows, loaded = .ok rows →
        result = .error (.configuration (.conditionNotSatisfied schema.table))

end Undisturbed

section Agreement

variable {insertion} {condition lookup : Condition} {opened : Session} {σ τ : Type}
  [DistribLattice τ] [BoundedOrder τ] {contents : Contents σ τ} {stored : List σ} {reply : Reply}
  (named : schema.IsNamed) (formed : ∀ leaf ∈ condition.leaves, leaf.IsWellFormed)
  (takes : ∀ leaf ∈ condition.leaves, leaf.TakesArguments)
  (looked : schema.lookup condition insertion.write.id reply = .ok lookup)
  (hearing : (insertion.asked opened).hearing = .ok reply)
include named formed takes looked hearing

/-- Of the rows that are stored then, a written row is read again if the guard keeps it, and no
other row is. -/
theorem Writes.keeps_iff (reported : insertion.write.id.reports reply = true) {created : σ}
    (writes : insertion.Writes condition lookup opened contents stored created) :
    ∀ row ∈ created :: stored, (insertion.query lookup).Keeps (contents.truth row) ↔
      row = created ∧ (insertion.guard condition).Keeps (contents.truth created) := by
  obtain ⟨carried, id, owned, identity, read, compared, rfl⟩ :=
    Schema.lookup_of_reported looked reported
  obtain ⟨id', reports, owns⟩ := writes.reported
  have same : insertion.reported opened = .ok id := by
    rw [Insertion.reported, hearing]
    change (insertion.write.id.identity reply >>= schema.readId) = .ok id
    rw [identity]
    exact read
  obtain rfl := Except.ok.inj (same.symm.trans reports)
  -- what the select keeps the guard keeps, and of the stored rows the guard keeps none
  have narrower (row : σ) :=
    insertion.planner.keeps_lookup named compared formed takes (contents.truth row)
  intro row listed
  constructor
  · intro keeps
    have guarded := (narrower row).1 keeps
    rcases List.mem_cons.1 listed with rfl | old
    · exact ⟨rfl, guarded⟩
    · exact absurd guarded (writes.unseen row old)
  · rintro ⟨rfl, guarded⟩
    exact (narrower row).2 owns guarded

theorem agrees_of_unjoined (unjoined : insertion.planner.spec.joins = []) {reading : Rereading}
    (reported : reading.created = insertion.write.id.reports reply)
    {loaded : Except DataError (List (Row schema))}
    (shown : Impartial (List.Forall₂ ResultRow.Shows opened.secondReply.rows) loaded) :
    insertion.Agrees condition lookup opened contents stored reading loaded
      (loaded >>= schema.answer reading.created) := by
  constructor
  case suppressed =>
    intro suppressed found answers
    obtain rfl := Schema.lookup_of_silent looked (reported.symm.trans suppressed)
    rw [suppressed]
    rw [query_eq_guard unjoined] at answers
    exact answers.returns shown found (fun row listed keeps => ⟨listed, keeps⟩) false
  case written =>
    intro written created writes keeps
    have kept := writes.keeps_iff named formed takes looked hearing (reported.symm.trans written)
    have here : created ∈ created :: stored := List.mem_cons_self
    rw [written]
    exact writes.answers.returns shown ⟨created, here, (kept created here).2 ⟨rfl, keeps⟩⟩
      (fun row listed keeps => ((kept row listed).1 keeps).1) true
  case refused =>
    rintro written created writes refuses rows rfl
    have kept := writes.keeps_iff named formed takes looked hearing (reported.symm.trans written)
    obtain rfl := writes.answers.eq_nil shown fun row listed keeps =>
      refuses ((kept row listed).1 keeps).2
    rw [written]
    rfl

end Agreement

end Insertion

namespace Repository

variable {schema : Schema} {repository : Repository schema} {condition : Condition}
  {row : Row schema} {options : ReadOptions}

/-- The guard of an insertion and the select that reads the row again have the same restrictions,
and the same source exactly if the specification has no joins. Without joins and without another writer,
a call returns what its guard has found, and what it has written if that satisfies the condition. -/
theorem reread_mirrors_guard {handle : TransactionHandle} {opened : Session}
    (bound : repository.binding = .transaction handle) (isOpen : handle ∈ opened.active)
    (formed : ∀ leaf ∈ condition.leaves, leaf.IsWellFormed)
    (takes : ∀ leaf ∈ condition.leaves, leaf.TakesArguments)
    {insertion : Insertion schema} {reading : Rereading}
    (inserts : repository.insertion condition row options opened = .ok insertion)
    (reads : insertion.rereading condition (repository.localeIn opened) opened = .ok reading) :
    ∃ lookup heard loaded later result after,
      insertion.Mirrors condition lookup row (repository.localeIn opened) reading ∧
      heard.exchange.replies = opened.exchange.replies.drop 1 ∧
      (repository.load reading.select ((repository.specFor options).preloadsFor false)
        (repository.localeIn opened)).run.run heard = (loaded, later) ∧
      (repository.findOrCreateIn condition row options).run.run opened = (result, after) ∧
      (insertion.planner.spec.joins = [] →
        ∀ (σ τ : Type) [DistribLattice τ] [BoundedOrder τ] (contents : Contents σ τ)
          (stored : List σ),
          insertion.Agrees condition lookup opened contents stored reading loaded result) := by
  obtain ⟨statements, result, after, course, ran, _⟩ :=
    course_of_open condition row options bound isOpen
  obtain ⟨heard, later, loaded, _, replies, loads, _, rfl⟩ := course.of_rereading inserts reads
  obtain ⟨reply, lookup, hearing, reported, looked, planned, bindable⟩ :=
    Insertion.heard_of_rereading reads
  obtain ⟨made, inserted, _⟩ := planned_of_insertion inserts
  have named := Planner.isNamed_of_make made
  have shown : Impartial (List.Forall₂ ResultRow.Shows opened.secondReply.rows) loaded := by
    have impartial := repository.load_impartial bindable
      ((repository.specFor options).preloadsFor false) (repository.localeIn opened) heard
    rw [loads] at impartial
    refine impartial.imp fun rows ⟨reply, hearing, shows⟩ => ?_
    obtain rfl := Session.eq_reply_of_hearing hearing
    rwa [Session.reply, Session.sent, replies] at shows
  have found (suppressed : reading.created = false) : lookup = condition :=
    Schema.lookup_of_silent looked (reported.symm.trans suppressed)
  have mirrors : insertion.Mirrors condition lookup row (repository.localeIn opened) reading :=
    ⟨Planner.findOrCreate_eq inserted, Planner.first_eq_select planned, found,
      insertion.planner.predicate?_visible_eq_guard (some condition),
      insertion.planner.source_visible_eq_guard_iff (some condition)⟩
  refine ⟨lookup, heard, loaded, later, _, after, mirrors, replies, loads, ran, ?_⟩
  intro unjoined σ τ _ _ contents stored
  exact Insertion.agrees_of_unjoined named formed takes looked hearing unjoined reported shown

def annRow : ResultRow := [("id", .bigint 1), ("name", .text "ann")]

/-- A session in a transaction whose backend has inserted nothing, and then finds a row. -/
def foundOpened : Session :=
  (Engine.beginTransaction.run.run
    { Session.fresh with
      exchange := { Exchange.silent with
        replies := [.empty, { Reply.empty with rows := [annRow] }] } }).2

theorem reread_mirrors_guard_of_found :
    let condition := Condition.eq "name" (.text "ann")
    let row : Row namedSchema := ⟨(0 : Int64), [("name", .text "ann")], .empty⟩
    ∃ found after, annRow.Shows found ∧
      ((namedUsers.join ⟨0⟩).findOrCreateIn condition row .default).run.run foundOpened =
        (.ok (found, false), after) := by
  intro condition row
  have plain : (Leaf.compare "name" .eq (.text "ann")).IsPlain := ⟨"name", rfl, rfl⟩
  have formed : ∀ leaf ∈ condition.leaves, leaf.IsWellFormed :=
    List.forall_mem_singleton.2 plain.isWellFormed
  have takes : ∀ leaf ∈ condition.leaves, leaf.TakesArguments :=
    List.forall_mem_singleton.2 plain.takesArguments
  have bound : (namedUsers.join ⟨0⟩).binding = .transaction ⟨0⟩ := rfl
  have isOpen : ⟨0⟩ ∈ foundOpened.active := List.mem_singleton_self _
  have whole : (do
      let insertion ← (namedUsers.join ⟨0⟩).insertion condition row .default foundOpened
      let reading ← insertion.rereading condition ((namedUsers.join ⟨0⟩).localeIn foundOpened)
        foundOpened
      return reading.created : Except DataError Bool) = .ok false := by
    decide +kernel
  obtain ⟨insertion, inserts, whole⟩ := exists_of_bind whole
  obtain ⟨reading, reads, whole⟩ := exists_of_bind whole
  have suppressed : reading.created = false := Except.ok.inj whole
  have ended : (((namedUsers.join ⟨0⟩).findOrCreateIn condition row .default).run.run
      foundOpened).1.map Prod.snd = .ok false := by
    decide +kernel
  obtain ⟨lookup, _, loaded, _, result, after, mirrors, _, _, ran, agrees⟩ :=
    reread_mirrors_guard bound isOpen formed takes inserts reads
  have planner : insertion.planner = ⟨.empty, .default, false⟩ :=
    (Except.ok.inj (planned_of_insertion inserts).1).symm
  obtain rfl := mirrors.found suppressed
  have kept : (insertion.guard condition).Keeps fun _ => true := by
    rw [Insertion.guard, planner]
    change Query.truth? (fun _ => true) _ = some true
    decide +kernel
  have unjoined : insertion.planner.spec.joins = [] := by
    rw [planner]
    rfl
  have agreed := agrees unjoined ResultRow Bool ⟨fun _ _ => true, id⟩ [annRow]
  have answers : Contents.Answers ⟨fun _ _ => true, id⟩ (insertion.guard condition) [annRow]
      foundOpened.secondReply :=
    ⟨fun _ shown => ⟨annRow, List.mem_singleton_self annRow, kept, List.mem_singleton.1 shown⟩,
      fun _ => nofun⟩
  rw [← Insertion.query_eq_guard unjoined] at answers
  have returned := agreed.suppressed suppressed ⟨annRow, List.mem_singleton_self annRow, kept⟩
    answers
  rw [ran] at ended
  cases returned with
  | unloaded => cases ended
  | found known shows =>
    obtain rfl := List.mem_singleton.1 known.1
    exact ⟨_, after, shows, ran⟩

/-- Users who are read together with their teams. -/
def joinedUsers : Repository namedSchema :=
  ⟨{ Spec.empty with joins := ["JOIN teams ON teams.id = users.team_id"] }, .default, .pool⟩

def joinedPlanner : Planner namedSchema := ⟨joinedUsers.spec, .default, false⟩

def joinedRun : Except DataError (Row namedSchema × Bool) × Session :=
  (joinedUsers.findOrCreate (.eq "name" (.text "ann"))
    ⟨(0 : Int64), [("name", .text "ann")], .empty⟩ .default).run.run Session.fresh

def joinedEvents : List Event :=
  [.begin,
    .statement ("INSERT INTO users (name) SELECT ? WHERE NOT EXISTS " ++
      "(SELECT 1 FROM users WHERE name = ?) RETURNING id") [.text "ann", .text "ann"],
    .statement ("SELECT users.* FROM users JOIN teams ON teams.id = users.team_id " ++
      "WHERE name = ? ORDER BY users.id ASC LIMIT 1") [.text "ann"],
    .rollback]

/-- A user without a team satisfies the guard, so nothing is written, but is not read again: the
call says that the row has vanished, though nothing has been removed. -/
theorem guard_overlooks_join :
    joinedUsers.planner .default = .ok joinedPlanner ∧
    (joinedPlanner.visible (some (.eq "name" (.text "ann")))).source ≠
      (joinedPlanner.guardQuery (some (.eq "name" (.text "ann")))).source ∧
    joinedRun.1.map Prod.snd = .error (.notFound (.vanished "users")) ∧
    joinedRun.2.exchange.log = joinedEvents := by
  have ended : (joinedRun.1.map Prod.snd, joinedRun.2.exchange.log) =
      (.error (.notFound (.vanished "users")), joinedEvents) := by
    decide +kernel
  refine ⟨rfl, ?_, Prod.mk.inj ended⟩
  rw [ne_eq, joinedPlanner.source_visible_eq_guard_iff]
  exact List.cons_ne_nil _ _

end Repository

end DataAccess
