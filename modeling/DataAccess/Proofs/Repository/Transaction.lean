import DataAccess.Proofs.Engine.Transaction
import DataAccess.Proofs.Repository.Planning
import Mathlib.Logic.Relation

/-! The protocol of transactions. A unit of work is a tree of calls through the handle of its
transaction, each of which may depend on all answers before it. Whatever the unit does, its
statements stand between one `BEGIN` and one `COMMIT` or `ROLLBACK`, and afterwards its handle
reaches nothing any more. -/
namespace DataAccess

/-- A unit of work. -/
inductive Work (α : Type) where
  /-- the unit ends with a result -/
  | done (result : Except DataError α)
  /-- a call of a repository of any entity that joins the transaction; the unit goes on with its
  answer -/
  | call {schema : Schema} (repository : Repository schema) (operation : Operation schema)
    (next : Except DataError (Outcome schema) → Work α)
  /-- time passes, and the calls that follow have a context, a locale and replies of their own -/
  | meanwhile (clock : Clock) (context : Context) (scope : LocaleScope) (replies : List Reply)
    (work : Work α)

/-- Run a unit of work in a transaction. -/
def Work.run {α : Type} (handle : TransactionHandle) : Work α → Engine α
  | done result => liftM result
  | call repository operation next => do
    let answer ← Engine.outcome ((repository.join handle).perform operation)
    (next answer).run handle
  | meanwhile clock context scope replies work => do
    modify fun session =>
      { session with clock, exchange := { session.exchange with context, scope, replies } }
    work.run handle

namespace Engine

variable {faults : DataError → Prop} {α : Type}

/-- A call in a transaction that has ended. It sends nothing: it reports the finished transaction
if its context is alive at its first exchange and the context's own error if it is dead; if it never
gets to an exchange, it answers what it would answer in any session. -/
def Stranded (call : Engine α) (session : Session) : Prop :=
  ∃ answer after, call.run.run session = (answer, after) ∧ after.exchange = session.exchange ∧
    (session.exchange.context.resume session.clock = .ok () ∧
        answer = .error (.configuration .transactionFinished) ∨
      (∃ error, session.exchange.context.resume session.clock = .error error ∧
        answer = .error error) ∨
      ∀ other : Session, other.exchange.scope = session.exchange.scope →
        call.run.run other = (answer, other))

theorem Stranded.value (result : Except DataError α) (session : Session) :
    Stranded (liftM result) session :=
  ⟨result, session, rfl, rfl, .inr (.inr fun _ _ => rfl)⟩

theorem Stranded.locale (fallback : String) (session : Session) :
    Stranded (Engine.locale fallback) session := by
  refine ⟨.ok (session.exchange.scope.currentOr fallback), session, rfl, rfl,
    .inr (.inr fun other same => ?_)⟩
  rw [← same]
  rfl

/-- The first exchange is where a call in an ended transaction ends. -/
theorem Stranded.exchange {session : Session} {handle : TransactionHandle}
    (ended : handle ∉ session.active) (work : Engine α) :
    Stranded (guarded (connected (.transaction handle) work)) session := by
  cases live : session.exchange.context.resume session.clock with
  | error error =>
    exact ⟨_, _, guarded_run_of_dead live _, rfl, .inr (.inl ⟨error, live, rfl⟩)⟩
  | ok =>
    refine ⟨.error (.configuration .transactionFinished),
      { session with clock := session.clock.renew.pass }, ?_, rfl, .inl ⟨live, rfl⟩⟩
    rw [guarded_run_of_live live]
    have refused : (requireOpen handle).run.run { session with clock := session.clock.renew } =
        (.error (.configuration .transactionFinished),
          { session with clock := session.clock.renew.pass }) := requireOpen_run_of_ended ended
    exact run_bind_of_error refused _

theorem Stranded.bind {β : Type} {session : Session} {call : Engine α} {next : α → Engine β}
    (first : Stranded call session) (second : ∀ value, Stranded (next value) session) :
    Stranded (call >>= next) session := by
  obtain ⟨answer, after, ran, unsent, reported⟩ := first
  rcases reported with ⟨live, rfl⟩ | ⟨error, dead, rfl⟩ | unreached
  · exact ⟨_, after, run_bind_of_error ran next, unsent, .inl ⟨live, rfl⟩⟩
  · exact ⟨_, after, run_bind_of_error ran next, unsent, .inr (.inl ⟨error, dead, rfl⟩)⟩
  cases answer with
  | error error =>
    exact ⟨_, after, run_bind_of_error ran next, unsent,
      .inr (.inr fun other same => run_bind_of_error (unreached other same) next)⟩
  | ok value =>
    obtain ⟨answer, later, ran, unsent, reported⟩ := second value
    have skipped := run_bind_of_ok (unreached session rfl) next
    refine ⟨answer, later, skipped.trans ran, unsent, ?_⟩
    rcases reported with finished | dead | unreached'
    · exact .inl finished
    · exact .inr (.inl dead)
    · refine .inr (.inr fun other same => ?_)
      exact (run_bind_of_ok (unreached other same) next).trans (unreached' other same)

theorem Exchanges.stranded {handle : TransactionHandle} {call : Engine α}
    (exchanges : Exchanges faults (.transaction handle) call) {session : Session}
    (ended : handle ∉ session.active) : Stranded call session := by
  induction exchanges with
  | value known => exact .value _ session
  | locale fallback => exact .locale fallback session
  | exchange conversation => exact .exchange ended _
  | bind _ _ first second => exact first.bind second

theorem Planned.stranded {handle : TransactionHandle} {call : Engine α}
    (planned : Planned faults (.transaction handle) call) {session : Session}
    (ended : handle ∉ session.active) : Stranded call session := by
  generalize bound : Binding.transaction handle = binding at planned
  induction planned with
  | exchanges exchanges =>
    subst bound
    exact exchanges.stranded ended
  | plan result planned next =>
    cases result with
    | error error => exact .value (.error error) session
    | ok value => exact next value rfl bound
  | locale fallback planned next =>
    exact (Stranded.locale fallback session).bind fun locale => next locale bound
  | bind first second ih =>
    subst bound
    exact (ih rfl).bind fun value => (second value).stranded ended
  | transaction => contradiction

/-- A call in a transaction opens and ends none; what it reports before its first exchange may be
anything. -/
theorem Planned.advancing {handle : TransactionHandle} {call : Engine α}
    (planned : Planned faults (.transaction handle) call) : Advancing (fun _ => True) call := by
  generalize bound : Binding.transaction handle = binding at planned
  induction planned with
  | exchanges exchanges => exact exchanges.advancing.weaken fun _ _ => trivial
  | plan result planned next =>
    cases result with
    | error error => exact .value fun _ _ _ => trivial
    | ok value => exact next value rfl bound
  | locale fallback planned next =>
    exact (Advancing.locale fallback).bind fun locale => next locale bound
  | bind first second ih =>
    exact (ih bound).bind fun value => (second value).advancing.weaken fun _ _ => trivial
  | transaction => contradiction

end Engine

/-- The open transactions and the lost connections are no more than the pool has connections. -/
def Session.Fits (session : Session) : Prop :=
  session.active.length + session.lost ≤ session.pool.size

/-- A session later on, when no transaction is left open that was not open before. -/
structure Session.Follows (before after : Session) : Prop where
  active : after.active = before.active
  begun : before.begun ≤ after.begun
  fits : before.Fits → after.Fits

theorem Session.Fits.of_same {before after : Session} (fits : before.Fits)
    (pool : after.pool = before.pool) (lost : after.lost = before.lost)
    (active : after.active = before.active) : after.Fits := by
  unfold Fits
  rwa [pool, lost, active]

theorem Session.Advances.follows {before after : Session} (advanced : before.Advances after) :
    before.Follows after :=
  ⟨advanced.active, advanced.begun.ge,
    fun fits => fits.of_same advanced.pool advanced.lost advanced.active⟩

theorem Session.Refuses.follows {before after : Session} {error : DataError}
    (refused : before.Refuses error after) : before.Follows after :=
  ⟨refused.active, refused.begun.ge,
    fun fits => fits.of_same refused.pool refused.lost refused.active⟩

theorem Session.Follows.trans {first second third : Session} (earlier : first.Follows second)
    (later : second.Follows third) : first.Follows third :=
  ⟨later.active.trans earlier.active, earlier.begun.trans later.begun,
    fun fits => later.fits (earlier.fits fits)⟩

/-- A transaction from its opening to its end: the connection that it took was one of the pool, and
is back in the pool or lost. -/
theorem Session.Opens.follows {α : Type} {before opened worked after : Session}
    {handle : TransactionHandle} {result : Except DataError α}
    (opens : before.Opens handle opened) (advanced : opened.Advances worked)
    (ends : worked.Ends handle result after) : before.Follows after := by
  have active := ends.active_of_opens opens advanced.active
  refine ⟨active, ?_, fun _ => ?_⟩
  · rw [ends.begun, advanced.begun, opens.begun]
    exact Nat.le_succ _
  · have lost := ends.lost
    have idle := opens.idle
    rw [advanced.lost, opens.lost] at lost
    rw [Fits, active, ends.pool, advanced.pool, opens.pool]
    omega

theorem Engine.Planned.follows {faults : DataError → Prop} {binding : Binding} {α : Type}
    {call : Engine α} (planned : Planned faults binding call) (session : Session) :
    session.Follows (call.run.run session).2 := by
  induction planned generalizing session with
  | exchanges exchanges => exact (exchanges.advancing session).1.follows
  | plan result planned next =>
    cases result with
    | error error => exact ⟨rfl, le_rfl, id⟩
    | ok value => exact next value rfl session
  | locale fallback planned next => exact next _ session
  | @bind _ _ _ call next first second ih =>
    have followed := ih session
    rcases ran : call.run.run session with ⟨error | value, later⟩
    · rw [ran] at followed
      rw [run_bind_of_error ran next]
      exact followed
    · rw [ran] at followed
      rw [run_bind_of_ok ran next]
      exact followed.trans ((second value).advancing later).1.follows
  | @transaction _ unit planned _ =>
    obtain ⟨error, after, _, refused, answered⟩ |
        ⟨handle, opened, result, worked, after, _, opens, _, advanced, ends, answered⟩ :=
      transaction_run unit (fun handle => (planned handle).advancing) session
    · rw [answered]
      exact refused.follows
    · rw [answered]
      exact opens.follows advanced ends

/-- What can happen to a session from outside of a transaction: calls of any repository, other
transactions, and the world that goes on around them. -/
inductive Session.Step : Session → Session → Prop
  | call {schema : Schema} (session : Session) (repository : Repository schema)
    (operation : Operation schema) :
    Step session ((repository.perform operation).run.run session).2
  | begins (session : Session) : Step session (Engine.beginTransaction.run.run session).2
  | ends (session : Session) (handle : TransactionHandle) (result : Except DataError Unit) :
    Step session ((Engine.endTransaction handle result).run.run session).2
  | around (session : Session) (clock : Clock) (closed : Bool) (exchange : Exchange) :
    Step session { session with clock, closed, exchange }

/-- The sessions that can come after one. -/
def Session.Later : Session → Session → Prop := Relation.ReflTransGen Step

/-- A step opens one transaction, or ends one, or leaves open what was open before. -/
theorem Session.step_cases {before after : Session} (stepped : before.Step after) :
    before.Follows after ∨ (∃ opener, before.Opens opener after) ∨
      ∃ ender ∈ before.active, ∃ result : Except DataError Unit, before.Ends ender result after := by
  cases stepped with
  | call _ repository operation =>
    exact .inl ((repository.planned_perform operation).follows before)
  | begins =>
    obtain ⟨error, after, ran, refused⟩ | ⟨opener, after, ran, opens⟩ :=
      Engine.beginTransaction_run before
    · rw [ran]
      exact .inl refused.follows
    · rw [ran]
      exact .inr (.inl ⟨opener, opens⟩)
  | ends _ ender result =>
    by_cases isOpen : ender ∈ before.active
    · obtain ⟨after, ran, ends⟩ := Engine.endTransaction_run result isOpen
      rw [ran]
      exact .inr (.inr ⟨ender, isOpen, result, ends⟩)
    · rw [Engine.endTransaction_run_of_ended result isOpen]
      exact .inl ⟨rfl, le_rfl, id⟩
  | around => exact .inl ⟨rfl, le_rfl, id⟩

/-- The transaction of a handle has been open, and is open no more. -/
structure Session.Past (handle : TransactionHandle) (session : Session) : Prop where
  begun : handle.number < session.begun
  ended : handle ∉ session.active

namespace Session

variable {handle : TransactionHandle} {before after : Session}

/-- No step brings an ended transaction back: one that is opened has a number of its own. -/
theorem Past.step (past : before.Past handle) (stepped : before.Step after) :
    after.Past handle := by
  obtain followed | ⟨opener, opens⟩ | ⟨ender, _, _, ends⟩ := step_cases stepped
  · refine ⟨past.begun.trans_le followed.begun, ?_⟩
    rw [followed.active]
    exact past.ended
  · constructor
    · rw [opens.begun]
      exact past.begun.trans (Nat.lt_succ_self _)
    · rw [opens.active]
      refine fun member => past.ended ((List.mem_cons.1 member).resolve_left ?_)
      rintro rfl
      exact absurd opens.number past.begun.ne
  · refine ⟨past.begun.trans_le ends.begun.ge, fun member => past.ended ?_⟩
    rw [ends.active] at member
    exact (List.mem_filter.1 member).1

theorem Past.later (past : before.Past handle) (reached : before.Later after) :
    after.Past handle := by
  induction reached with
  | refl => exact past
  | tail _ stepped ih => exact ih.step stepped

/-- A transaction takes a connection that is idle, and its end gives the connection back or loses
it. -/
theorem Fits.step (fits : before.Fits) (stepped : before.Step after) : after.Fits := by
  obtain followed | ⟨opener, opens⟩ | ⟨ender, isOpen, _, ends⟩ := step_cases stepped
  · exact followed.fits fits
  · have idle := opens.idle
    rw [Fits, opens.active, opens.lost, opens.pool, List.length_cons]
    omega
  · have lost := ends.lost
    have fewer : (before.active.filter (· ≠ ender)).length < before.active.length :=
      List.length_filter_lt_length_iff_exists.2 ⟨ender, isOpen, by simp⟩
    unfold Fits at fits
    rw [Fits, ends.active, ends.pool]
    omega

/-- Whatever happens in a session, it never holds more connections than its pool has. -/
theorem Fits.of_start {pool : Pool} {timing : Timing}
    (reached : (start pool timing).Later after) : after.Fits := by
  induction reached with
  | refl => exact Nat.zero_le _
  | tail _ stepped ih => exact ih.step stepped

end Session

theorem Session.advances_meanwhile (session : Session) (clock : Clock) (context : Context)
    (scope : LocaleScope) (replies : List Reply) :
    session.Advances
      { session with clock, exchange := { session.exchange with context, scope, replies } } :=
  .unsent rfl rfl rfl rfl rfl rfl

/-- A unit of work goes on with the answer of its first call, where the call has left the session.
-/
theorem Work.run_call {α : Type} {schema : Schema} {repository : Repository schema}
    {operation : Operation schema} {handle : TransactionHandle} {before after : Session}
    {answer : Except DataError (Outcome schema)}
    (ran : ((repository.join handle).perform operation).run.run before = (answer, after))
    (next : Except DataError (Outcome schema) → Work α) :
    ((call repository operation next).run handle).run.run before =
      ((next answer).run handle).run.run after :=
  run_bind_of_ok (Engine.outcome_run ran) _

theorem Work.advancing {α : Type} (work : Work α) (handle : TransactionHandle) :
    Engine.Advancing (fun _ => True) (work.run handle) := by
  induction work with
  | done result => exact .value fun _ _ _ => trivial
  | call repository operation next ih =>
    intro session
    have advanced := ((repository.join handle).planned_perform operation).advancing session
    rcases ran : ((repository.join handle).perform operation).run.run session with
      ⟨answer, later⟩
    rw [ran] at advanced
    rw [run_call ran next]
    exact ⟨advanced.1.trans (ih answer later).1, fun _ _ _ => trivial⟩
  | meanwhile clock context scope replies work ih =>
    refine .bind (.modify fun session => ?_) fun _ => ih
    exact session.advances_meanwhile clock context scope replies

namespace Repository

open Engine

variable {schema : Schema}

/-- The transaction of a repository could not be opened, and no unit of work is run: the answer and
the session after it are the same for all of them. At most a `BEGIN` was sent, and refused. -/
structure Unopened (repository : Repository schema) (session : Session) (error : DataError)
    (after : Session) : Prop where
  answered : ∀ {α : Type} (work : Work α),
    (repository.transaction work.run).run.run session = (.error error, after)
  log : after.exchange.log = session.exchange.log ∨
    after.exchange.log = session.exchange.log ++ [.begin] ∧
      ∃ failure, session.exchange.failures.begin = some failure ∧ error = failure.toDataError

/-- A unit of work is run in a transaction that has been opened; the transaction is ended as the
result of the unit demands, and its handle reaches nothing afterwards. -/
structure Completed {α : Type} (repository : Repository schema) (work : Work α)
    (session : Session) (handle : TransactionHandle) (opened : Session)
    (result : Except DataError α) (statements : List Event) (after : Session) : Prop where
  begins : opened.exchange.log = session.exchange.log ++ [.begin]
  worked : ∃ worked, (work.run handle).run.run opened = (result, worked) ∧
    worked.exchange.log = opened.exchange.log ++ statements
  plain : ∀ event ∈ statements, event.isControl = false
  log : after.exchange.log = session.exchange.log ++ .begin :: (statements ++ [closing result])
  answered : (repository.transaction work.run).run.run session =
    (session.exchange.failures.settle result, after)
  ended : ∀ later, after.Later later → ∀ {schema : Schema} (repository : Repository schema)
    (operation : Operation schema),
    Stranded ((repository.join handle).perform operation) later

theorem beginTransaction_of_bound (repository : Repository schema)
    (bound : repository.inTransaction = true) :
    repository.beginTransaction =
      (throw (.configuration .nestedTransaction) : Engine TransactionHandle) := by
  unfold Repository.beginTransaction
  rw [if_pos bound]
  rfl

theorem transaction_of_unbound {α : Type} (repository : Repository schema)
    (unbound : repository.inTransaction ≠ true) (unit : TransactionHandle → Engine α) :
    repository.transaction unit = Engine.transaction unit := by
  unfold Repository.transaction Repository.beginTransaction
  rw [if_neg unbound]
  rfl

/-- Transactions do not nest; one that cannot be opened runs nothing; and any other one brackets
the statements of its unit of work, reports the end of it, and strands its handle. -/
theorem transaction_protocol {α : Type} (repository : Repository schema) (work : Work α)
    (session : Session) :
    if repository.inTransaction then
      (repository.transaction work.run).run.run session =
        (.error (.configuration .nestedTransaction), session)
    else
      match Engine.beginTransaction.run.run session with
      | (.error error, after) => repository.Unopened session error after
      | (.ok handle, opened) =>
        ∃ result statements after,
          repository.Completed work session handle opened result statements after := by
  split
  case isTrue bound =>
    refine run_bind_of_error ?_ _
    rw [repository.beginTransaction_of_bound bound]
    rfl
  case isFalse unbound =>
    obtain ⟨error, after, begun, refused, _⟩ |
        ⟨handle, opened, result, worked, after, begun, opens, ran, advanced, ends, answered⟩ :=
      transaction_run work.run work.advancing session
    · rw [begun]
      refine ⟨fun other => ?_, refused.log⟩
      rw [repository.transaction_of_unbound unbound]
      exact transaction_run_of_refused begun other.run
    · rw [begun]
      obtain ⟨statements, sent, plain⟩ := advanced.log
      refine ⟨result, statements, after, opens.log, ⟨worked, ran, sent⟩, plain,
        ends.log_of_opens opens sent, ?_, ?_⟩
      · rw [repository.transaction_of_unbound unbound]
        exact answered
      · have past : after.Past handle := by
          constructor
          · rw [ends.begun, advanced.begun, opens.begun, opens.number]
            exact Nat.lt_succ_self _
          · rw [ends.active_of_opens opens advanced.active]
            exact opens.fresh
        intro later reached _ repository operation
        have planned := (repository.join handle).planned_perform operation
        exact planned.stranded (past.later reached).ended

/-- Users with a name. -/
def namedSchema : Schema :=
  ⟨"users", .i64, "id", ["id", "name"], none, none, [("id", .id), ("name", .text)]⟩

def namedUsers : Repository namedSchema := ⟨.empty, .default, .pool⟩

/-- A session whose backend reports one inserted row, and finds nothing afterwards. -/
def afterInsertion : Session :=
  { Session.fresh with
    exchange := { Exchange.silent with
      replies := [{ Reply.empty with rows := [[("id", .bigint 1)]] }] } }

/-- A unit of work that creates a user, and fails if that fails. -/
def creatingUser : Work Unit :=
  .call namedUsers (.create ⟨(0 : Int64), [("name", .text "ann")], .empty⟩) fun answer =>
    .done (answer.map fun _ => ())

theorem transaction_protocol_of_creatingUser :
    namedUsers.inTransaction = false ∧
    ∃ opened result statements after,
      Engine.beginTransaction.run.run afterInsertion = (.ok ⟨0⟩, opened) ∧
      namedUsers.Completed creatingUser afterInsertion ⟨0⟩ opened result statements after ∧
      afterInsertion.exchange.failures.settle result = .ok () ∧
      after.exchange.log =
        [.begin, .statement "INSERT INTO users (name) VALUES (?) RETURNING id" [.text "ann"],
          .commit] := by
  have whole : (((namedUsers.transaction creatingUser.run).run.run afterInsertion).1,
      ((namedUsers.transaction creatingUser.run).run.run afterInsertion).2.exchange.log) =
      (.ok (), [.begin,
        .statement "INSERT INTO users (name) VALUES (?) RETURNING id" [.text "ann"],
        .commit]) := by
    decide +kernel
  obtain ⟨result, statements, after, completed⟩ :=
    namedUsers.transaction_protocol creatingUser afterInsertion
  rw [completed.answered] at whole
  obtain ⟨settled, logged⟩ := Prod.mk.inj whole
  exact ⟨rfl, _, result, statements, after, rfl, completed, settled, logged⟩

end Repository

end DataAccess
