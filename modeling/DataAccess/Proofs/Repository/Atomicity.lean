import DataAccess.Proofs.Repository.Transaction

/-! What stays of the statements that were sent. A backend keeps a statement at once unless a
transaction is open; those of a transaction are kept together when a `COMMIT` succeeds, and dropped
by a `ROLLBACK`. If either fails, the driver drops the transaction, and what stays of it is up to the
driver: it is taken to roll back what it drops. Creating many rows, and finding or creating one, is
all or nothing over the pool; in a transaction it is the unit of work around the call that decides.
-/
namespace DataAccess

/-- A backend and its driver as far as transactions go. -/
structure Backend where
  failures : ControlFailures
  /-- what stays of the statements of a transaction that the backend has failed to end -/
  residue : List Event → List Event

/-- A transaction that is dropped before it has ended is rolled back. -/
def Backend.RollsBack (backend : Backend) : Prop := ∀ statements, backend.residue statements = []

/-- A backend that does what it is asked for, with a driver that rolls back what it drops. -/
def Backend.faultless : Backend := ⟨.none, fun _ => []⟩

/-- The statements that a backend keeps, and those of an open transaction. -/
structure Journal where
  kept : List Event
  pending : Option (List Event)
deriving DecidableEq

namespace Journal

/-- The journal once the open transaction has ended. -/
def close (journal : Journal) (stay : List Event → List Event) : Journal :=
  match journal.pending with
  | some statements => ⟨journal.kept ++ stay statements, none⟩
  | none => journal

/-- What a backend does with an event. -/
def take (backend : Backend) (journal : Journal) : Event → Journal
  | .begin =>
    if backend.failures.begin.isSome then journal else { journal with pending := some [] }
  | .commit => journal.close (if backend.failures.commit.isSome then backend.residue else id)
  | .rollback =>
    journal.close (if backend.failures.rollback.isSome then backend.residue else fun _ => [])
  | .statement sql args =>
    match journal.pending with
    | some statements => { journal with pending := some (statements ++ [.statement sql args]) }
    | none => { journal with kept := journal.kept ++ [.statement sql args] }

/-- What is kept of the statements that came to an answer. -/
def remaining {α : Type} (statements : List Event) : Except DataError α → List Event
  | .ok _ => statements
  | .error _ => []

theorem keep_nothing {α : Type} (kept statements : List Event) (error : DataError) :
    (⟨kept, none⟩ : Journal) =
      ⟨kept ++ remaining statements (.error error : Except DataError α), none⟩ :=
  congrArg (Journal.mk · none) (List.append_nil kept).symm

/-- What a backend does with a log. -/
def replay (backend : Backend) (journal : Journal) (log : List Event) : Journal :=
  log.foldl (take backend) journal

theorem replay_pending (backend : Backend) (kept : List Event) {statements : List Event}
    (plain : ∀ event ∈ statements, event.isControl = false) (work : List Event) :
    replay backend ⟨kept, some work⟩ statements = ⟨kept, some (work ++ statements)⟩ := by
  induction statements generalizing work with
  | nil => rw [List.append_nil]; rfl
  | cons event rest ih =>
    have tail := ih fun event' member => plain event' (List.mem_cons_of_mem event member)
    cases event with
    | statement sql args =>
      refine (tail (work ++ [.statement sql args])).trans ?_
      rw [List.append_assoc]
      rfl
    | begin => exact absurd (plain _ List.mem_cons_self) (by decide)
    | commit => exact absurd (plain _ List.mem_cons_self) (by decide)
    | rollback => exact absurd (plain _ List.mem_cons_self) (by decide)

/-- Nothing stays of a transaction that is rolled back, be it that the backend fails to do so. -/
theorem take_rollback {backend : Backend} (rollsBack : backend.RollsBack)
    (kept statements : List Event) :
    take backend ⟨kept, some statements⟩ .rollback = ⟨kept, none⟩ := by
  unfold take close
  dsimp only
  split
  · rw [rollsBack, List.append_nil]
  · rw [List.append_nil]

/-- A whole transaction is kept if the answer to its end is a success, and otherwise dropped. -/
theorem replay_transaction {α : Type} {backend : Backend} (rollsBack : backend.RollsBack)
    (kept : List Event) {statements : List Event} (accepted : backend.failures.begin = none)
    (plain : ∀ event ∈ statements, event.isControl = false) (result : Except DataError α) :
    replay backend ⟨kept, none⟩ (.begin :: (statements ++ [closing result])) =
      ⟨kept ++ remaining statements (backend.failures.settle result), none⟩ := by
  have opened : take backend ⟨kept, none⟩ .begin = ⟨kept, some []⟩ := by
    unfold take
    rw [accepted]
    rfl
  have pending : statements.foldl (take backend) ⟨kept, some []⟩ = ⟨kept, some statements⟩ :=
    replay_pending backend kept plain []
  rw [replay, List.foldl_cons, opened, List.foldl_append, pending]
  cases result with
  | error error => exact (take_rollback rollsBack kept statements).trans (keep_nothing _ _ error)
  | ok value =>
    change take backend ⟨kept, some statements⟩ .commit = _
    unfold take close ControlFailures.settle
    cases backend.failures.commit with
    | none => rfl
    | some failure =>
      refine Eq.trans ?_ (keep_nothing kept statements failure.toDataError)
      change (⟨kept ++ backend.residue statements, none⟩ : Journal) = _
      rw [rollsBack, List.append_nil]

/-- A `BEGIN` that the backend refuses changes nothing. -/
theorem replay_refused {backend : Backend} {failure : BackendFailure} (journal : Journal)
    (refused : backend.failures.begin = some failure) : replay backend journal [.begin] = journal := by
  change take backend journal .begin = journal
  unfold take
  rw [refused]
  rfl

end Journal

namespace Engine

variable {α : Type}

/-- A call of which all statements are kept if it gives a result, and none if it fails. -/
def AllOrNothing (call : Engine α) : Prop :=
  ∀ session : Session, ∃ answer after sent, call.run.run session = (answer, after) ∧
    after.exchange.log = session.exchange.log ++ sent ∧
    ∀ backend : Backend, backend.failures = session.exchange.failures → backend.RollsBack →
      ∀ kept, Journal.replay backend ⟨kept, none⟩ sent =
        ⟨kept ++ Journal.remaining (sent.filter fun event => !event.isControl) answer, none⟩

namespace AllOrNothing

theorem value (result : Except DataError α) : AllOrNothing (liftM result : Engine α) := by
  intro session
  refine ⟨result, session, [], rfl, (List.append_nil _).symm, fun backend _ _ kept => ?_⟩
  cases result <;> exact congrArg (Journal.mk · none) (List.append_nil kept).symm

theorem map {β : Type} {call : Engine α} (whole : AllOrNothing call) (change : α → β) :
    AllOrNothing (change <$> call) := by
  intro session
  obtain ⟨answer, after, sent, ran, logged, replayed⟩ := whole session
  rw [map_eq_pure_bind]
  cases answer with
  | error error => exact ⟨.error error, after, sent, run_bind_of_error ran _, logged, replayed⟩
  | ok value => exact ⟨.ok (change value), after, sent, run_bind_of_ok ran _, logged, replayed⟩

theorem statements_of_transaction {statements : List Event}
    (plain : ∀ event ∈ statements, event.isControl = false) (result : Except DataError α) :
    (Event.begin :: (statements ++ [closing result])).filter (fun event => !event.isControl) =
      statements := by
  have kept : statements.filter (fun event => !event.isControl) = statements :=
    List.filter_eq_self.2 fun event member => by rw [plain event member]; rfl
  have ended : [closing result].filter (fun event => !event.isControl) = [] := by
    cases result <;> rfl
  rw [List.filter_cons_of_neg (by decide), List.filter_append, kept, ended, List.append_nil]

/-- A transaction of its own makes any work all or nothing. -/
theorem transaction {unit : TransactionHandle → Engine α}
    (advancing : ∀ handle, Advancing (fun _ => True) (unit handle)) :
    AllOrNothing (transaction unit) := by
  intro session
  obtain ⟨error, after, _, refused, answered⟩ |
      ⟨handle, opened, result, worked, after, _, opens, _, advanced, ends, answered⟩ :=
    transaction_run unit advancing session
  · rcases refused.log with unsent | ⟨sent, failure, failed, _⟩
    · refine ⟨.error error, after, [], answered, unsent.trans (List.append_nil _).symm, ?_⟩
      exact fun backend _ _ kept => Journal.keep_nothing kept _ error
    · refine ⟨.error error, after, [.begin], answered, sent, fun backend fails _ kept => ?_⟩
      rw [Journal.replay_refused ⟨kept, none⟩ (fails ▸ failed)]
      exact Journal.keep_nothing kept _ error
  · obtain ⟨statements, sent, plain⟩ := advanced.log
    refine ⟨_, after, .begin :: (statements ++ [closing result]), answered,
      ends.log_of_opens opens sent, fun backend fails rollsBack kept => ?_⟩
    rw [Journal.replay_transaction rollsBack kept (fails ▸ opens.accepted) plain result,
      statements_of_transaction plain, fails]

end AllOrNothing

end Engine

/-- In a run of a unit of work that begins in a session, an operation of a repository is performed
in the session `before`. -/
inductive Work.Performs {schema : Schema} (repository : Repository schema)
    (operation : Operation schema) (handle : TransactionHandle) (before : Session) {α : Type} :
    Work α → Session → Prop
  | here (next : Except DataError (Outcome schema) → Work α) :
    Performs repository operation handle before (.call repository operation next) before
  | after {schema' : Schema} {repository' : Repository schema'} {operation' : Operation schema'}
    {next : Except DataError (Outcome schema') → Work α} {session session' : Session}
    {answer : Except DataError (Outcome schema')}
    (ran : ((repository'.join handle).perform operation').run.run session = (answer, session'))
    (performs : Performs repository operation handle before (next answer) session') :
    Performs repository operation handle before (.call repository' operation' next) session
  | meanwhile {clock : Clock} {context : Context} {scope : LocaleScope} {replies : List Reply}
    {work : Work α} {session : Session}
    (performs : Performs repository operation handle before work
      { session with clock, exchange := { session.exchange with context, scope, replies } }) :
    Performs repository operation handle before
      (.meanwhile clock context scope replies work) session

/-- What a call in a unit of work sends is part of what the unit sends. -/
theorem Work.Performs.advances {schema : Schema} {repository : Repository schema}
    {operation : Operation schema} {handle : TransactionHandle} {before session : Session}
    {α : Type} {work : Work α}
    (performs : Performs repository operation handle before work session) :
    session.Advances before ∧
      (((repository.join handle).perform operation).run.run before).2.Advances
        ((work.run handle).run.run session).2 := by
  induction performs with
  | here next =>
    refine ⟨.refl before, ?_⟩
    rcases ran : ((repository.join handle).perform operation).run.run before with ⟨answer, after⟩
    rw [Work.run_call ran next]
    exact ((next answer).advancing handle after).1
  | @after schema' repository' operation' next session session' answer ran performs ih =>
    have advanced := (((repository'.join handle).planned_perform operation').advancing session).1
    rw [ran] at advanced
    rw [Work.run_call ran next]
    exact ⟨advanced.trans ih.1, ih.2⟩
  | meanwhile performs ih =>
    exact ⟨(Session.advances_meanwhile _ _ _ _ _).trans ih.1, ih.2⟩

namespace Repository

open Engine

variable {schema : Schema}

theorem allOrNothing_atomically {α : Type} {repository : Repository schema}
    (unbound : repository.binding = .pool) {work : Repository schema → Engine α}
    (advancing : ∀ handle, Advancing (fun _ => True) (work (repository.join handle))) :
    AllOrNothing (repository.atomically work) := by
  obtain ⟨spec, settings, binding⟩ := repository
  cases unbound
  exact .transaction advancing

theorem allOrNothing_createMany {repository : Repository schema}
    (unbound : repository.binding = .pool) (rows : List (Row schema)) :
    AllOrNothing (repository.createMany rows) := by
  unfold Repository.createMany
  split
  · exact .value (.ok [])
  · refine allOrNothing_atomically unbound fun handle => ?_
    have planned : Planned (fun _ => True) (.transaction handle)
        (rows.mapM (repository.join handle).create) :=
      planned_createEach (repository.join handle) fun _ _ _ _ _ => trivial
    exact planned.advancing

theorem allOrNothing_findOrCreate {repository : Repository schema}
    (unbound : repository.binding = .pool) (condition : Condition) (row : Row schema)
    (options : ReadOptions) : AllOrNothing (repository.findOrCreate condition row options) := by
  refine allOrNothing_atomically unbound fun handle => ?_
  have planned : Planned (fun _ => True) (.transaction handle)
      ((repository.join handle).findOrCreateIn condition row options) :=
    planned_findOrCreateIn (repository.join handle) condition row
      fun _ _ _ _ _ _ _ => trivial
  exact planned.advancing

/-- What a call in a unit of work has sent is kept with what was sent before and after it, if the
transaction succeeds, and dropped with it if the transaction fails. -/
def SharesFate {α : Type} (work : Work α) (session before called : Session) : Prop :=
  ∃ earlier sent further log answer after,
    called.exchange.log = before.exchange.log ++ sent ∧
    (Engine.transaction work.run).run.run session = (answer, after) ∧
    after.exchange.log = session.exchange.log ++ log ∧
    ∀ backend : Backend, backend.failures = session.exchange.failures → backend.RollsBack →
      ∀ kept, Journal.replay backend ⟨kept, none⟩ log =
        ⟨kept ++ Journal.remaining (earlier ++ sent ++ further) answer, none⟩

theorem sharesFate_of_performs {α : Type} {repository : Repository schema}
    {operation : Operation schema} {work : Work α} {session opened before : Session}
    {handle : TransactionHandle}
    (begun : Engine.beginTransaction.run.run session = (.ok handle, opened))
    (performs : work.Performs repository operation handle before opened) :
    SharesFate work session before
      (((repository.join handle).perform operation).run.run before).2 := by
  obtain ⟨reached, left⟩ := performs.advances
  obtain ⟨earlier, logged, plain⟩ := reached.log
  obtain ⟨sent, called, plain'⟩ :=
    (((repository.join handle).planned_perform operation).advancing before).1.log
  obtain ⟨further, worked, plain''⟩ := left.log
  have all : ∀ event ∈ earlier ++ sent ++ further, event.isControl = false := by
    simp only [List.mem_append]
    rintro event ((member | member) | member)
    · exact plain event member
    · exact plain' event member
    · exact plain'' event member
  obtain ⟨error, after, refused, _⟩ |
      ⟨handle', opened', result, final, after, begun', opens, ran, _, ends, answered⟩ :=
    transaction_run work.run work.advancing session
  · rw [begun] at refused
    cases refused
  · rw [begun] at begun'
    cases begun'
    have whole : final.exchange.log = opened.exchange.log ++ (earlier ++ sent ++ further) := by
      rw [ran] at worked
      rw [worked, called, logged]
      simp only [List.append_assoc]
    refine ⟨earlier, sent, further, _, _, after, called, answered, ends.log_of_opens opens whole,
      fun backend fails rollsBack kept => ?_⟩
    rw [← fails]
    exact Journal.replay_transaction rollsBack kept (fails ▸ opens.accepted) all result

/-- Over the pool, creating many rows and finding or creating one are all or nothing. In a unit of
work it is the transaction that is: whatever a call in it sends is kept if the transaction succeeds
and dropped if it fails, and the call's own answer has no part in that. -/
theorem creation_shares_fate_of_transaction {α : Type} (repository : Repository schema) :
    (repository.binding = .pool →
      (∀ rows, AllOrNothing (repository.perform (.createMany rows))) ∧
      ∀ condition row options,
        AllOrNothing (repository.perform (.findOrCreate condition row options))) ∧
    ∀ (operation : Operation schema) (work : Work α) (session opened before : Session)
      (handle : TransactionHandle),
      Engine.beginTransaction.run.run session = (.ok handle, opened) →
      work.Performs repository operation handle before opened →
      SharesFate work session before
        (((repository.join handle).perform operation).run.run before).2 := by
  refine ⟨fun unbound => ⟨fun rows => ?_, fun condition row options => ?_⟩, ?_⟩
  · exact (allOrNothing_createMany unbound rows).map _
  · exact (allOrNothing_findOrCreate unbound condition row options).map _
  · intro operation work session opened before handle begun performs
    exact sharesFate_of_performs begun performs

/-- Find or create a user named bob, with a row that is named otherwise. -/
def misnamedCreation : Operation namedSchema :=
  .findOrCreate (.eq "name" (.text "bob")) ⟨(0 : Int64), [("name", .text "ann")], .empty⟩ .default

def misnamedInsertion : Event :=
  .statement ("INSERT INTO users (name) SELECT ? WHERE NOT EXISTS " ++
    "(SELECT 1 FROM users WHERE name = ?) RETURNING id") [.text "ann", .text "bob"]

def misnamedReading : Event :=
  .statement ("SELECT * FROM users WHERE name = ? AND users.id = ? " ++
    "ORDER BY users.id ASC LIMIT 1") [.text "bob", .int 1]

/-- A unit of work that goes on when its call fails. -/
def goingOn : Work Unit := .call namedUsers misnamedCreation fun _ => .done (.ok ())

/-- The session in which the call is made. -/
def openedForCreation : Session := (Engine.beginTransaction.run.run afterInsertion).2

def misnamedCall : Except DataError (Outcome namedSchema) × Session :=
  ((namedUsers.join ⟨0⟩).perform misnamedCreation).run.run openedForCreation

def goingOnRun : Except DataError Unit × Session :=
  (namedUsers.transaction goingOn.run).run.run afterInsertion

def aloneRun : Except DataError (Outcome namedSchema) × Session :=
  (namedUsers.perform misnamedCreation).run.run afterInsertion

theorem creation_shares_fate_of_transaction_of_goingOn :
    namedUsers.binding = .pool ∧ AllOrNothing (namedUsers.perform misnamedCreation) ∧
    Backend.faultless.RollsBack ∧
    (misnamedInsertion ∈ aloneRun.2.exchange.log ∧
      Journal.replay .faultless ⟨[], none⟩ aloneRun.2.exchange.log = ⟨[], none⟩) ∧
    Engine.beginTransaction.run.run afterInsertion = (.ok ⟨0⟩, openedForCreation) ∧
    goingOn.Performs namedUsers misnamedCreation ⟨0⟩ openedForCreation openedForCreation ∧
    SharesFate goingOn afterInsertion openedForCreation misnamedCall.2 := by
  obtain ⟨alone, inside⟩ := creation_shares_fate_of_transaction (α := Unit) namedUsers
  have whole : AllOrNothing (namedUsers.perform misnamedCreation) := (alone rfl).2 _ _ _
  have rollsBack : Backend.faultless.RollsBack := fun _ => rfl
  have refused : aloneRun.1.map (fun _ => ()) =
      .error (.configuration (.conditionNotSatisfied "users")) ∧
      misnamedInsertion ∈ aloneRun.2.exchange.log := by
    decide +kernel
  refine ⟨rfl, whole, rollsBack, ⟨refused.2, ?_⟩, rfl, .here _, ?_⟩
  · obtain ⟨answer, after, sent, ran, logged, replayed⟩ := whole afterInsertion
    have failed : answer = .error (.configuration (.conditionNotSatisfied "users")) := by
      rw [← eq_error_of_map refused.1, aloneRun, ran]
    have dropped := replayed .faultless rfl rollsBack []
    rw [failed] at dropped
    rw [aloneRun, ran, logged]
    exact dropped
  · exact inside misnamedCreation goingOn afterInsertion openedForCreation openedForCreation ⟨0⟩ rfl
      (.here _)

/-- A row that does not satisfy its condition is refused after it has been inserted, and a unit of
work that goes on commits it, whatever the driver does with transactions that are dropped. -/
theorem refused_row_is_committed :
    Engine.beginTransaction.run.run afterInsertion = (.ok ⟨0⟩, openedForCreation) ∧
    goingOn.Performs namedUsers misnamedCreation ⟨0⟩ openedForCreation openedForCreation ∧
    misnamedCall.1 = .error (.configuration (.conditionNotSatisfied "users")) ∧
    misnamedCall.2.exchange.log =
      openedForCreation.exchange.log ++ [misnamedInsertion, misnamedReading] ∧
    goingOnRun.1 = .ok () ∧
    ∀ residue, (Journal.replay ⟨.none, residue⟩ ⟨[], none⟩ goingOnRun.2.exchange.log).kept =
      [misnamedInsertion, misnamedReading] := by
  have called : (misnamedCall.1.map fun _ => (), misnamedCall.2.exchange.log) =
      (.error (.configuration (.conditionNotSatisfied "users")),
        openedForCreation.exchange.log ++ [misnamedInsertion, misnamedReading]) := by
    decide +kernel
  have ended : (goingOnRun.1, goingOnRun.2.exchange.log) =
      (.ok (), [.begin, misnamedInsertion, misnamedReading, .commit]) := by
    decide +kernel
  obtain ⟨refused, sent⟩ := Prod.mk.inj called
  obtain ⟨succeeded, logged⟩ := Prod.mk.inj ended
  refine ⟨rfl, .here _, eq_error_of_map refused, sent, succeeded, fun residue => ?_⟩
  rw [logged]
  rfl

end Repository

end DataAccess
