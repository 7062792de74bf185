import DataAccess.Proofs.Engine.Transaction

/-! Failures of the backend. A call awaits the reply to each statement that it sends. The first one
that does not come, or that is a failure, ends the call with its error, and nothing more is sent but
the `ROLLBACK` of a transaction that the call has opened. -/
namespace DataAccess

/-- How many events are statements. -/
def statements (events : List Event) : Nat := events.countP fun event => !event.isControl

/-- Whether a transaction is open after an event. -/
def Event.opened (before : Bool) : Event → Bool
  | .begin => true
  | .commit | .rollback => false
  | .statement _ _ => before

def leavesOpen (events : List Event) : Bool := events.foldl Event.opened false

/-- What is sent to undo events: a `ROLLBACK` if they leave a transaction open, and else nothing. -/
def undoing (events : List Event) : List Event := if leavesOpen events then [.rollback] else []

theorem statements_append (first second : List Event) :
    statements (first ++ second) = statements first + statements second :=
  List.countP_append

theorem leavesOpen_append {first : List Event} (ended : leavesOpen first = false)
    (second : List Event) : leavesOpen (first ++ second) = leavesOpen second := by
  unfold leavesOpen at ended ⊢
  rw [List.foldl_append, ended]

section Plain

variable {events : List Event} (plain : ∀ event ∈ events, event.isControl = false)
include plain

theorem foldl_of_plain (opened : Bool) :
    events.foldl Event.opened opened = opened := by
  induction events with
  | nil => rfl
  | cons event rest ih =>
    obtain ⟨here, later⟩ := List.forall_mem_cons.1 plain
    cases event with
    | statement sql args => exact ih later
    | _ => contradiction

theorem leavesOpen_of_plain : leavesOpen events = false := foldl_of_plain plain false

theorem undoing_of_plain : undoing events = [] := by
  rw [undoing, leavesOpen_of_plain plain]
  rfl

theorem undoing_begin : undoing (.begin :: events) = [.rollback] := by
  have opened : leavesOpen (.begin :: events) = true := foldl_of_plain plain true
  rw [undoing, opened]
  rfl

end Plain

namespace Session

/-- The reply to the statement that has been sent last. -/
def reply (asked : Session) : Reply := asked.exchange.replies.headD .empty

/-- Whether that reply comes before the context ends the call. A reply that is not waited for is
there at once. -/
def arrival (asked : Session) : Except DataError Unit :=
  let context :=
    if asked.reply.cancels then asked.exchange.context.cancel else asked.exchange.context
  match asked.reply.delay with
  | some delay => (context.sleep asked.clock delay).1
  | none => .ok ()

/-- What a call hears that awaits the reply: the error that ends the wait, the failure that the
backend reports, or the reply. -/
def hearing (asked : Session) : Except DataError Reply :=
  match asked.arrival with
  | .error error => .error error
  | .ok _ =>
    match asked.reply.failure with
    | some failure => .error failure.toDataError
    | none => .ok asked.reply

theorem eq_reply_of_hearing {asked : Session} {reply : Reply}
    (heard : asked.hearing = .ok reply) : reply = asked.reply := by
  unfold hearing at heard
  split at heard
  · contradiction
  · split at heard
    · contradiction
    · exact (Except.ok.inj heard).symm

/-- The session in which the reply to a statement is awaited. -/
def sent (before : Session) (statement : Statement) (args : List Argument) : Session :=
  { before with
    exchange := { before.exchange with
      log := before.exchange.log ++ [.statement statement.sql args] } }

end Session

namespace Engine

variable {α β : Type}

/-- What `send` does once the statement is logged. -/
def hear : Engine Reply := do
  let reply ← nextReply
  if reply.cancels then cancel
  if let some delay := reply.delay then wait delay
  failWith reply.failure
  return reply

theorem send_run_of_bound {statement : Statement} {args : List Argument}
    (bound : statement.bind = .ok args) (before : Session) :
    (send statement).run.run before = hear.run.run (before.sent statement args) := by
  have whole : send statement = (do
      let args ← statement.bind
      record (.statement statement.sql args)
      hear) := rfl
  rw [whole, bound]
  rfl

/-- A statement whose arguments cannot be bound is never sent. -/
theorem send_run_of_unbound {statement : Statement} {error : DataError}
    (failed : statement.bind = .error error) (before : Session) :
    (send statement).run.run before = (.error error, before) := by
  unfold send
  rw [failed]
  rfl

theorem nextReply_run (asked : Session) :
    nextReply.run.run asked = (.ok asked.reply,
      { asked with
        exchange := { asked.exchange with replies := asked.exchange.replies.drop 1 } }) := by
  obtain ⟨clock, pool, closed, begun, active, numbered, lost, released, exchange⟩ := asked
  obtain ⟨replies, failures, context, scope, log⟩ := exchange
  cases replies <;> rfl

/-- What is awaited is what is heard, and nothing is sent meanwhile. -/
theorem hear_run (asked : Session) : ∃ after, hear.run.run asked = (asked.hearing, after) ∧
    after.exchange.log = asked.exchange.log ∧
    after.exchange.replies = asked.exchange.replies.drop 1 := by
  have judged (session : Session) :
      (do failWith asked.reply.failure; return asked.reply : Engine Reply).run.run session =
        (match asked.reply.failure with
          | some failure => .error failure.toDataError
          | none => .ok asked.reply, session) := by
    cases asked.reply.failure <;> rfl
  -- the wait goes on in the context of the call as it is then
  have waited (session : Session) (clock : session.clock = asked.clock)
      (context : session.exchange.context =
        if asked.reply.cancels then asked.exchange.context.cancel else asked.exchange.context) :
      ∃ after, (do
          if let some delay := asked.reply.delay then wait delay
          failWith asked.reply.failure
          return asked.reply : Engine Reply).run.run session = (asked.hearing, after) ∧
        after.exchange = session.exchange := by
    unfold Session.hearing Session.arrival
    rw [← context, ← clock]
    cases asked.reply.delay with
    | none => exact ⟨session, judged session, rfl⟩
    | some delay =>
      have slept := wait_run delay session
      rcases ended : session.exchange.context.sleep session.clock delay with ⟨result, later⟩
      rw [ended] at slept
      simp only [ended]
      cases result with
      | error error => exact ⟨{ session with clock := later }, run_bind_of_error slept _, rfl⟩
      | ok _ =>
        exact ⟨{ session with clock := later }, (run_bind_of_ok slept _).trans (judged _), rfl⟩
  obtain ⟨after, heard, kept⟩ := waited
    { asked with
      exchange := { asked.exchange with
        replies := asked.exchange.replies.drop 1
        context :=
          if asked.reply.cancels then asked.exchange.context.cancel else asked.exchange.context } }
    rfl rfl
  refine ⟨after, ?_, by rw [kept], by rw [kept]⟩
  rw [← heard]
  refine (run_bind_of_ok (nextReply_run asked) _).trans ?_
  cases asked.reply.cancels <;> rfl

/-- Work that begins in one session comes to another, in which it has just sent a statement and
awaits the reply. -/
inductive Awaits : {α : Type} → Engine α → Session → Session → Prop
  | send {statement : Statement} {args : List Argument} (bound : statement.bind = .ok args)
    (before : Session) : Awaits (send statement) before (before.sent statement args)
  | first {α β : Type} {work : Engine α} {next : α → Engine β} {before asked : Session}
    (awaits : Awaits work before asked) : Awaits (work >>= next) before asked
  | later {α β : Type} {work : Engine α} {next : α → Engine β} {value : α}
    {before middle asked : Session} (ran : work.run.run before = (.ok value, middle))
    (awaits : Awaits (next value) middle asked) : Awaits (work >>= next) before asked
  | outcome {α : Type} {work : Engine α} {before asked : Session}
    (awaits : Awaits work before asked) : Awaits (outcome work) before asked

/-- A statement that a call sends after `k` others: with it the events `sent` have been sent, and an
error that is heard in place of its reply ends the call. -/
structure Asks (call : Engine α) (before : Session) (answer : Except DataError α)
    (events : List Event) (k : Nat) (asked : Session) (sent : List Event) : Prop where
  awaits : Awaits call before asked
  log : asked.exchange.log = before.exchange.log ++ sent
  begins : sent <+: events
  count : statements sent = k + 1
  replies : asked.exchange.replies = before.exchange.replies.drop k
  ends : ∀ error, asked.hearing = .error error →
    answer = .error error ∧ events = sent ++ undoing sent

/-- A call that sends events and answers, and that hears the reply to each of its statements. -/
structure Conducts (call : Engine α) (before : Session) (answer : Except DataError α)
    (after : Session) (events : List Event) : Prop where
  ran : call.run.run before = (answer, after)
  log : after.exchange.log = before.exchange.log ++ events
  replies : after.exchange.replies = before.exchange.replies.drop (statements events)
  ended : ∀ value, answer = .ok value → leavesOpen events = false
  asks : ∀ k < statements events, ∃ asked sent, Asks call before answer events k asked sent

/-- A call that ends with the first statement whose reply it does not get. -/
def Attentive (call : Engine α) : Prop :=
  ∀ before, ∃ answer after events, Conducts call before answer after events

/-- Work that leaves a part of the exchange alone. -/
def Keeps {γ : Type} (part : Exchange → γ) (work : Engine α) : Prop :=
  ∀ session, part (work.run.run session).2.exchange = part session.exchange

namespace Keeps

variable {γ : Type} {part : Exchange → γ}

theorem value (result : Except DataError α) : Keeps part (liftM result : Engine α) :=
  fun _ => rfl

theorem get : Keeps part (MonadState.get : Engine Session) := fun _ => rfl

theorem bind {work : Engine α} {next : α → Engine β} (first : Keeps part work)
    (second : ∀ value, Keeps part (next value)) : Keeps part (work >>= next) := by
  intro session
  have kept := first session
  rcases ran : work.run.run session with ⟨error | value, later⟩
  · rw [run_bind_of_error ran, ← kept, ran]
  · rw [run_bind_of_ok ran, second value later, ← kept, ran]

theorem modifyClock (change : Clock → Clock) : Keeps part (modifyClock change) := fun _ => rfl

theorem wait (duration : Nat) : Keeps part (wait duration) := by
  intro session
  rw [wait_run]

theorem check : Keeps part check := get.bind fun _ => value _

theorem release : Keeps part release := fun _ => rfl

theorem acquire : Keeps part acquire := by
  refine get.bind fun session => ?_
  dsimp only
  split
  · exact value _
  · split
    · exact (wait _).bind fun _ => value _
    · split
      · exact (modifyClock Clock.suspend).bind fun _ => modifyClock Clock.pass
      · exact modifyClock Clock.pass

theorem failWith (failure : Option BackendFailure) : Keeps part (failWith failure) := by
  cases failure <;> exact value _

theorem record (event : Event) : Keeps Exchange.replies (record event) := fun _ => rfl

theorem requireOpen (handle : TransactionHandle) : Keeps part (requireOpen handle) := by
  refine (modifyClock Clock.pass).bind fun _ => get.bind fun session => ?_
  split
  · exact value _
  · exact value _

theorem leave (event : Event) (failure : Option BackendFailure) :
    Keeps Exchange.replies (leave event failure) := by
  refine (record event).bind fun _ session => ?_
  change (session.leaving failure).exchange.replies = session.exchange.replies
  rw [session.exchange_leaving]

theorem beginTransaction : Keeps Exchange.replies beginTransaction := by
  have opening : Keeps Exchange.replies (modify Session.opening : Engine Unit) := fun _ => rfl
  refine check.bind fun _ => (modifyClock _).bind fun _ => acquire.bind fun _ => ?_
  refine (record .begin).bind fun _ => get.bind fun session => ?_
  split
  · exact release.bind fun _ => value _
  · exact opening.bind fun _ => value (.ok _)

theorem endTransaction (handle : TransactionHandle) (result : Except DataError α) :
    Keeps Exchange.replies (endTransaction handle result) := by
  have apart : Keeps Exchange.replies (modify (·.without handle) : Engine Unit) := fun _ => rfl
  refine (requireOpen handle).bind fun _ => apart.bind fun _ => get.bind fun session => ?_
  cases result with
  | ok value' => exact (leave _ _).bind fun _ => (failWith _).bind fun _ => value (.ok value')
  | error error => exact (leave _ _).bind fun _ => value (.error error)

end Keeps

namespace Attentive

theorem silent {work : Engine α} (kept : Keeps (fun exchange => exchange) work) :
    Attentive work := by
  intro before
  rcases ran : work.run.run before with ⟨answer, after⟩
  have same : after.exchange = before.exchange := by
    have whole := kept before
    rwa [ran] at whole
  refine ⟨answer, after, [], ran, ?_, ?_, fun _ _ => rfl, fun k sent => ?_⟩
  · rw [same, List.append_nil]
  · rw [same]
    rfl
  · exact absurd sent (Nat.not_lt_zero k)

theorem value (result : Except DataError α) : Attentive (liftM result : Engine α) :=
  silent (.value result)

theorem locale (fallback : String) : Attentive (Engine.locale fallback) :=
  silent (Keeps.get.bind fun _ => .value _)

theorem send (statement : Statement) : Attentive (send statement) := by
  intro before
  cases bound : statement.bind with
  | error error =>
    exact ⟨.error error, before, [], send_run_of_unbound bound before, (List.append_nil _).symm, rfl,
      nofun, fun k sent => absurd sent (Nat.not_lt_zero k)⟩
  | ok args =>
    obtain ⟨after, heard, logged, taken⟩ := hear_run (before.sent statement args)
    have plain : ∀ event ∈ [Event.statement statement.sql args], event.isControl = false := by
      simp [Event.isControl]
    refine ⟨_, after, [.statement statement.sql args], (send_run_of_bound bound before).trans heard,
      logged, taken, fun _ _ => rfl, fun k sent => ?_⟩
    obtain rfl : k = 0 := Nat.lt_one_iff.1 sent
    refine ⟨before.sent statement args, [.statement statement.sql args], .send bound before, rfl,
      List.prefix_rfl, rfl, rfl, fun error failed => ⟨failed, ?_⟩⟩
    rw [undoing_of_plain plain, List.append_nil]

theorem bind {work : Engine α} {next : α → Engine β} (first : Attentive work)
    (second : ∀ value, Attentive (next value)) : Attentive (work >>= next) := by
  intro before
  obtain ⟨answer, middle, events, conducts⟩ := first before
  cases answer with
  | error error =>
    refine ⟨.error error, middle, events, run_bind_of_error conducts.ran next, conducts.log,
      conducts.replies, nofun, fun k sent => ?_⟩
    obtain ⟨asked, sent, asks⟩ := conducts.asks k sent
    refine ⟨asked, sent, asks.awaits.first, asks.log, asks.begins, asks.count, asks.replies, ?_⟩
    intro error' failed
    obtain ⟨same, ends⟩ := asks.ends error' failed
    exact ⟨congrArg Except.error (Except.error.inj same), ends⟩
  | ok value =>
    obtain ⟨answer, after, events', conducts'⟩ := second value middle
    have settled := conducts.ended value rfl
    refine ⟨answer, after, events ++ events', (run_bind_of_ok conducts.ran next).trans conducts'.ran,
      ?_, ?_, fun value' answered => ?_, fun k sent => ?_⟩
    · rw [conducts'.log, conducts.log, List.append_assoc]
    · rw [conducts'.replies, conducts.replies, List.drop_drop, statements_append]
    · rw [leavesOpen_append settled, conducts'.ended value' answered]
    · by_cases early : k < statements events
      · -- the first part has gone on, so it has heard every reply
        obtain ⟨asked, sent, asks⟩ := conducts.asks k early
        refine ⟨asked, sent, asks.awaits.first, asks.log,
          asks.begins.trans (List.prefix_append events events'), asks.count, asks.replies, ?_⟩
        intro error failed
        exact absurd (asks.ends error failed).1 nofun
      · rw [statements_append] at sent
        obtain ⟨j, rfl⟩ := Nat.exists_eq_add_of_le (Nat.le_of_not_lt early)
        obtain ⟨asked, sent', asks⟩ := conducts'.asks j (Nat.lt_of_add_lt_add_left sent)
        refine ⟨asked, events ++ sent', .later conducts.ran asks.awaits, ?_, ?_, ?_, ?_, ?_⟩
        · rw [asks.log, conducts.log, List.append_assoc]
        · exact (List.prefix_append_right_inj events).2 asks.begins
        · rw [statements_append, asks.count, Nat.add_assoc]
        · rw [asks.replies, conducts.replies, List.drop_drop]
        · intro error failed
          obtain ⟨answered, ends⟩ := asks.ends error failed
          refine ⟨answered, ?_⟩
          rw [undoing, leavesOpen_append settled, ends, List.append_assoc, undoing]

theorem guarded {work : Engine α} (attentive : Attentive work) :
    Attentive (Engine.guarded work) :=
  (silent .check).bind fun _ => (silent (.modifyClock Clock.renew)).bind fun _ => attentive

theorem pooled {work : Engine α} (attentive : Attentive work) :
    Attentive (Engine.pooled work) := by
  refine (silent .acquire).bind fun _ before => ?_
  obtain ⟨answer, after, events, conducts⟩ := attentive before
  refine ⟨answer, after.releasing, events,
    run_bind_of_ok (outcome_run conducts.ran) _, conducts.log, conducts.replies, conducts.ended,
    fun k sent => ?_⟩
  obtain ⟨asked, sent, asks⟩ := conducts.asks k sent
  exact ⟨asked, sent, asks.awaits.outcome.first, asks.log, asks.begins, asks.count, asks.replies,
    asks.ends⟩

theorem connected {work : Engine α} (attentive : Attentive work) (binding : Binding) :
    Attentive (Engine.connected binding work) := by
  cases binding with
  | pool => exact attentive.pooled
  | transaction handle => exact (silent (.requireOpen handle)).bind fun _ => attentive

/-- A transaction that a call opens is rolled back when the unit of work in it fails, and the error
of the unit is the answer. -/
theorem transaction {unit : TransactionHandle → Engine α}
    (attentive : ∀ handle, Attentive (unit handle))
    (advancing : ∀ handle, Advancing (fun _ => True) (unit handle)) :
    Attentive (Engine.transaction unit) := by
  intro before
  have kept := Keeps.beginTransaction before
  -- the replies that the unit takes are the first ones, since opening and ending take none
  obtain ⟨error, after, begun, refused, answered⟩ |
      ⟨handle, opened, result, worked, after, begun, opens, ran, advanced, ends, answered⟩ :=
    transaction_run unit advancing before
  · rw [begun] at kept
    rcases refused.log with unsent | ⟨sent, _⟩
    · exact ⟨.error error, after, [], answered, unsent.trans (List.append_nil _).symm, kept,
        nofun, fun k sent => absurd sent (Nat.not_lt_zero k)⟩
    · exact ⟨.error error, after, [.begin], answered, sent, kept, nofun,
        fun k sent => absurd sent (Nat.not_lt_zero k)⟩
  rw [begun] at kept
  have whole := transaction_run_of_opened begun ran
  have taken := Keeps.endTransaction handle result worked
  rw [← whole, answered] at taken
  obtain ⟨_, _, events, conducts⟩ := attentive handle opened
  obtain ⟨rfl, rfl⟩ := Prod.mk.inj (ran.symm.trans conducts.ran)
  obtain ⟨events', logged, plain⟩ := advanced.log
  obtain rfl : events = events' := List.append_cancel_left (conducts.log.symm.trans logged)
  have count : statements (.begin :: (events ++ [closing result])) = statements events := by
    have last : statements [closing result] = 0 := by cases result <;> rfl
    have first : statements (.begin :: (events ++ [closing result])) =
      statements (events ++ [closing result]) := rfl
    rw [first, statements_append, last, Nat.add_zero]
  refine ⟨_, after, .begin :: (events ++ [closing result]), answered,
    ends.log_of_opens opens conducts.log, ?_, fun value settled => ?_, fun k sent => ?_⟩
  · rw [count, taken, conducts.replies, kept]
  · cases result with
    | error error => contradiction
    | ok value =>
      unfold leavesOpen
      rw [List.foldl_cons, List.foldl_append]
      rfl
  · rw [count] at sent
    obtain ⟨asked, sent, asks⟩ := conducts.asks k sent
    refine ⟨asked, .begin :: sent, .later begun asks.awaits.outcome.first, ?_, ?_, asks.count, ?_,
      fun error failed => ?_⟩
    · rw [asks.log, opens.log, List.append_assoc]
      rfl
    · exact (List.prefix_cons_inj _).2 (asks.begins.trans (List.prefix_append _ _))
    · rw [asks.replies, kept]
    · obtain ⟨rfl, stopped⟩ := asks.ends error failed
      have plain' : ∀ event ∈ sent, event.isControl = false :=
        fun event member => plain event (asks.begins.subset member)
      rw [undoing_of_plain plain', List.append_nil] at stopped
      rw [undoing_begin plain', stopped]
      exact ⟨rfl, rfl⟩

end Attentive

/-- Whatever is done on a connection is attentive. -/
theorem Conversation.attentive {faults : DataError → Prop} {work : Engine α}
    (conversation : Conversation faults work) : Attentive work := by
  induction conversation with
  | value => exact .value _
  | send statement => exact .send statement
  | bind _ _ first second => exact first.bind second

theorem Exchanges.attentive {faults : DataError → Prop} {binding : Binding} {call : Engine α}
    (exchanges : Exchanges faults binding call) : Attentive call := by
  induction exchanges with
  | value => exact .value _
  | locale fallback => exact .locale fallback
  | exchange conversation => exact (conversation.attentive.connected _).guarded
  | bind _ _ first second => exact first.bind second

end Engine

end DataAccess
