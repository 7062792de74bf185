import DataAccess.Proofs.Engine.Conversation
import DataAccess.Proofs.Sequence

/-! What exchanges leave alone. An exchange appends statements to the log, takes replies, and lets
time pass. It opens and ends no transaction, and neither the backend nor the context of the call
makes it report a fault of the mapping. -/
namespace DataAccess

/-- A session later on, when statements have been sent and no transaction was opened or ended. -/
structure Session.Advances (before after : Session) : Prop where
  pool : after.pool = before.pool
  lost : after.lost = before.lost
  active : after.active = before.active
  begun : after.begun = before.begun
  failures : after.exchange.failures = before.exchange.failures
  log : ∃ sent, after.exchange.log = before.exchange.log ++ sent ∧
    ∀ event ∈ sent, event.isControl = false

namespace Session.Advances

variable {first second third : Session}

/-- A session that differs in nothing that counts has advanced without sending anything. -/
theorem unsent {before after : Session} (pool : after.pool = before.pool)
    (lost : after.lost = before.lost) (active : after.active = before.active)
    (begun : after.begun = before.begun)
    (failures : after.exchange.failures = before.exchange.failures)
    (log : after.exchange.log = before.exchange.log) : before.Advances after :=
  ⟨pool, lost, active, begun, failures, [], log.trans (List.append_nil _).symm,
    fun _ member => nomatch member⟩

theorem refl (session : Session) : session.Advances session := .unsent rfl rfl rfl rfl rfl rfl

theorem trans (earlier : first.Advances second) (later : second.Advances third) :
    first.Advances third := by
  obtain ⟨sent, logged, plain⟩ := earlier.log
  obtain ⟨sent', logged', plain'⟩ := later.log
  refine ⟨later.pool.trans earlier.pool, later.lost.trans earlier.lost,
    later.active.trans earlier.active, later.begun.trans earlier.begun,
    later.failures.trans earlier.failures, sent ++ sent', ?_, ?_⟩
  · rw [logged', logged, List.append_assoc]
  · intro event member
    rcases List.mem_append.mp member with member | member
    · exact plain event member
    · exact plain' event member

end Session.Advances

theorem Context.resume_unmapped {context : Context} {clock : Clock} {error : DataError}
    (dead : context.resume clock = .error error) : error.isMapping = false := by
  unfold Context.resume at dead
  split at dead
  · cases dead
    rfl
  · split at dead
    · cases dead
      rfl
    · contradiction

theorem Context.sleep_unmapped {context : Context} {clock : Clock} {duration : Nat}
    {error : DataError} (ended : (context.sleep clock duration).1 = .error error) :
    error.isMapping = false := by
  unfold Context.sleep at ended
  dsimp only at ended
  split at ended
  · contradiction
  · split at ended
    · cases ended
      rfl
    · split at ended
      · cases ended
        rfl
      · contradiction

namespace Engine

section Runs

variable {α : Type}

theorem run_get_bind (next : Session → Engine α) (session : Session) :
    (MonadState.get >>= next : Engine α).run.run session = (next session).run.run session := rfl

theorem wait_run (duration : Nat) (session : Session) :
    (wait duration).run.run session =
      ((session.exchange.context.sleep session.clock duration).1,
        { session with
          clock := (session.exchange.context.sleep session.clock duration).2 }) := rfl

/-- The result of work as a value never fails. -/
theorem outcome_run {work : Engine α} {result : Except DataError α} {before after : Session}
    (ran : work.run.run before = (result, after)) :
    (outcome work).run.run before = (.ok result, after) :=
  congrArg (fun ran : Except DataError α × Session =>
    ((.ok ran.1, ran.2) : Except DataError (Except DataError α) × Session)) ran

end Runs

/-- Work that only advances its session, and reports no faults of the mapping but the given ones. -/
def Advancing (faults : DataError → Prop) {α : Type} (work : Engine α) : Prop :=
  ∀ session : Session,
    session.Advances (work.run.run session).2 ∧ Within faults (work.run.run session).1

namespace Advancing

variable {faults : DataError → Prop} {α β : Type}

theorem value {result : Except DataError α} (known : Within faults result) :
    Advancing faults (liftM result : Engine α) :=
  fun session => ⟨.refl session, known⟩

theorem bind {work : Engine α} {next : α → Engine β} (first : Advancing faults work)
    (second : ∀ value, Advancing faults (next value)) : Advancing faults (work >>= next) := by
  intro session
  obtain ⟨advanced, known⟩ := first session
  rcases ran : work.run.run session with ⟨error | value, later⟩
  · rw [ran] at advanced known
    rw [run_bind_of_error ran]
    refine ⟨advanced, fun error' failed => known error' ?_⟩
    exact congrArg Except.error (Except.error.inj failed)
  · rw [ran] at advanced
    rw [run_bind_of_ok ran]
    obtain ⟨advanced', known'⟩ := second value later
    exact ⟨advanced.trans advanced', known'⟩

theorem weaken {faults' : DataError → Prop} {work : Engine α} (advancing : Advancing faults work)
    (known : ∀ error, faults error → faults' error) : Advancing faults' work :=
  fun session => ⟨(advancing session).1,
    fun error failed mapping => known error ((advancing session).2 error failed mapping)⟩

theorem get : Advancing faults (MonadState.get : Engine Session) :=
  fun session => ⟨.refl session, .ok session⟩

theorem modify {change : Session → Session}
    (advances : ∀ session : Session, session.Advances (change session)) :
    Advancing faults (modify change : Engine Unit) :=
  fun session => ⟨advances session, .ok ()⟩

theorem modifyClock (change : Clock → Clock) : Advancing faults (modifyClock change) :=
  modify fun _ => .unsent rfl rfl rfl rfl rfl rfl

theorem statement (sql : String) (args : List Argument) :
    Advancing faults (record (.statement sql args)) :=
  modify fun _ => ⟨rfl, rfl, rfl, rfl, rfl, [.statement sql args], rfl, by simp [Event.isControl]⟩

theorem locale (fallback : String) : Advancing faults (Engine.locale fallback) :=
  get.bind fun _ => value (.ok _)

theorem check : Advancing faults check := by
  refine get.bind fun session => value ?_
  intro error dead mapping
  rw [Context.resume_unmapped dead] at mapping
  contradiction

theorem wait (duration : Nat) : Advancing faults (wait duration) := by
  intro session
  rw [wait_run]
  refine ⟨.unsent rfl rfl rfl rfl rfl rfl, fun error ended mapping => ?_⟩
  rw [Context.sleep_unmapped ended] at mapping
  contradiction

theorem nextReply : Advancing faults nextReply := by
  refine get.bind fun session => ?_
  split
  · exact value (.ok _)
  · refine bind (modify ?_) fun _ => value (.ok _)
    exact fun _ => .unsent rfl rfl rfl rfl rfl rfl

theorem cancel : Advancing faults cancel := modify fun _ => .unsent rfl rfl rfl rfl rfl rfl

theorem failWith (failure : Option BackendFailure) : Advancing faults (failWith failure) := by
  cases failure with
  | none => exact value (.ok ())
  | some failure => exact value (.error failure.toDataError_isMapping)

theorem send (statement : Statement) : Advancing faults (send statement) := by
  refine (value statement.bind_within).bind fun args => ?_
  refine (Advancing.statement statement.sql args).bind fun _ => ?_
  refine nextReply.bind fun reply => ?_
  have judged : Advancing faults (do Engine.failWith reply.failure; return reply) :=
    (failWith reply.failure).bind fun _ => value (.ok reply)
  dsimp only
  split
  · refine cancel.bind fun _ => ?_
    split
    · exact (wait _).bind fun _ => judged
    · exact judged
  · split
    · exact (wait _).bind fun _ => judged
    · exact judged

theorem guarded {work : Engine α} (advancing : Advancing faults work) :
    Advancing faults (Engine.guarded work) :=
  check.bind fun _ => (modifyClock Clock.renew).bind fun _ => advancing

theorem acquire : Advancing faults acquire := by
  refine get.bind fun session => ?_
  dsimp only
  split
  · exact value (.error rfl)
  · split
    · exact (wait _).bind fun _ => value (.error rfl)
    · split
      · exact (modifyClock Clock.suspend).bind fun _ => modifyClock Clock.pass
      · exact modifyClock Clock.pass

/-- The connection is let go whatever becomes of the work, and the result is that of the work. -/
theorem pooled {work : Engine α} (advancing : Advancing faults work) :
    Advancing faults (Engine.pooled work) := by
  refine acquire.bind fun _ session => ?_
  obtain ⟨advanced, known⟩ := advancing session
  rcases ran : work.run.run session with ⟨result, later⟩
  rw [ran] at advanced known
  rw [run_bind_of_ok (outcome_run ran)]
  exact ⟨advanced.trans (.unsent rfl rfl rfl rfl rfl rfl), known⟩

theorem requireOpen (handle : TransactionHandle) : Advancing faults (requireOpen handle) := by
  refine (modifyClock Clock.pass).bind fun _ => get.bind fun session => ?_
  split
  · exact value (.error rfl)
  · exact value (.ok ())

theorem connected {work : Engine α} (advancing : Advancing faults work) (binding : Binding) :
    Advancing faults (Engine.connected binding work) := by
  cases binding with
  | pool => exact advancing.pooled
  | transaction handle => exact (requireOpen handle).bind fun _ => advancing

end Advancing

theorem Conversation.advancing {faults : DataError → Prop} {α : Type} {work : Engine α}
    (conversation : Conversation faults work) : Advancing faults work := by
  induction conversation with
  | value known => exact .value known
  | send statement => exact .send statement
  | bind _ _ first second => exact first.bind second

theorem Exchanges.advancing {faults : DataError → Prop} {binding : Binding} {α : Type}
    {call : Engine α} (exchanges : Exchanges faults binding call) : Advancing faults call := by
  induction exchanges with
  | value known => exact .value known
  | locale fallback => exact .locale fallback
  | exchange conversation => exact (conversation.advancing.connected binding).guarded
  | bind _ _ first second => exact first.bind second

end Engine

end DataAccess
