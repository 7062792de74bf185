import DataAccess.Proofs.Engine.Advance

/-! Opening and ending transactions. What opening one can come to is said once, and so is what
ending one comes to; the run of any unit of work between them follows. -/
namespace DataAccess

/-- Opening a transaction has failed: at most a `BEGIN` has been sent, which the backend refused. -/
structure Session.Refuses (before : Session) (error : DataError) (after : Session) : Prop where
  pool : after.pool = before.pool
  lost : after.lost = before.lost
  active : after.active = before.active
  begun : after.begun = before.begun
  failures : after.exchange.failures = before.exchange.failures
  log : after.exchange.log = before.exchange.log ∨
    after.exchange.log = before.exchange.log ++ [.begin] ∧
      ∃ failure, before.exchange.failures.begin = some failure ∧ error = failure.toDataError
  unmapped : error.isMapping = false

/-- A transaction has been opened: a connection was left for it, and a `BEGIN` has been sent. -/
structure Session.Opens (before : Session) (handle : TransactionHandle) (after : Session) :
    Prop where
  number : handle.number = before.begun
  idle : before.active.length + before.lost < before.pool.size
  accepted : before.exchange.failures.begin = none
  pool : after.pool = before.pool
  lost : after.lost = before.lost
  active : after.active = handle :: before.active
  begun : after.begun = before.begun + 1
  failures : after.exchange.failures = before.exchange.failures
  log : after.exchange.log = before.exchange.log ++ [.begin]

/-- What the end of a transaction reports for the result of its unit of work. -/
def ControlFailures.settle {α : Type} (failures : ControlFailures) :
    Except DataError α → Except DataError α
  | .error error => .error error
  | .ok value =>
    match failures.commit with
    | some failure => .error failure.toDataError
    | .none => .ok value

/-- The event that ends a transaction. -/
def closing {α : Type} : Except DataError α → Event
  | .ok _ => .commit
  | .error _ => .rollback

/-- A transaction has been ended as the result of its unit of work demands. The pool has its
connection back, or has lost it. -/
structure Session.Ends {α : Type} (before : Session) (handle : TransactionHandle)
    (result : Except DataError α) (after : Session) : Prop where
  pool : after.pool = before.pool
  lost : after.lost ≤ before.lost + 1
  active : after.active = before.active.filter (· ≠ handle)
  begun : after.begun = before.begun
  failures : after.exchange.failures = before.exchange.failures
  log : after.exchange.log = before.exchange.log ++ [closing result]

/-- The log of a whole transaction, from those of its parts. -/
theorem Session.Ends.log_of_opens {α : Type} {session opened worked after : Session}
    {handle : TransactionHandle} {result : Except DataError α} {statements : List Event}
    (ends : worked.Ends handle result after) (opens : session.Opens handle opened)
    (sent : worked.exchange.log = opened.exchange.log ++ statements) :
    after.exchange.log =
      session.exchange.log ++ .begin :: (statements ++ [closing result]) := by
  rw [ends.log, sent, opens.log]
  simp only [List.append_assoc, List.cons_append, List.nil_append]

/-- A transaction that is opened is none of those that are open already. -/
theorem Session.Opens.fresh {session opened : Session} {handle : TransactionHandle}
    (opens : session.Opens handle opened) : handle ∉ session.active := fun member => by
  have earlier := session.numbered handle member
  rw [opens.number] at earlier
  exact Nat.lt_irrefl _ earlier

/-- Once a transaction has ended that was opened in a session, the same ones are open as before. -/
theorem Session.Ends.active_of_opens {α : Type} {session opened worked after : Session}
    {handle : TransactionHandle} {result : Except DataError α}
    (ends : worked.Ends handle result after) (opens : session.Opens handle opened)
    (kept : worked.active = opened.active) : after.active = session.active := by
  have others : session.active.filter (· ≠ handle) = session.active := by
    refine List.filter_eq_self.2 fun other member => decide_eq_true ?_
    rintro rfl
    exact opens.fresh member
  rw [ends.active, kept, opens.active, List.filter_cons_of_neg (by simp), others]

namespace Session

variable (session : Session) (failure : Option BackendFailure)

theorem pool_leaving : (session.leaving failure).pool = session.pool := by
  unfold leaving
  split <;> rfl

theorem lost_leaving : (session.leaving failure).lost ≤ session.lost + 1 := by
  unfold leaving
  split
  · exact Nat.le_succ _
  · exact Nat.le_refl _

/-- Whether the pool gets a connection back makes no difference to anything but the pool. -/
theorem active_leaving : (session.leaving failure).active = session.active := by
  unfold leaving
  split <;> rfl

theorem begun_leaving : (session.leaving failure).begun = session.begun := by
  unfold leaving
  split <;> rfl

theorem exchange_leaving : (session.leaving failure).exchange = session.exchange := by
  unfold leaving
  split <;> rfl

end Session

namespace Engine

variable {α : Type}

theorem guarded_run_of_dead {session : Session} {error : DataError}
    (dead : session.exchange.context.resume session.clock = .error error)
    (work : Engine α) : (guarded work).run.run session = (.error error, session) := by
  have refused : check.run.run session = (.error error, session) := by
    change (session.exchange.context.resume session.clock, session) = _
    rw [dead]
  exact run_bind_of_error refused _

theorem guarded_run_of_live {session : Session}
    (live : session.exchange.context.resume session.clock = .ok ())
    (work : Engine α) :
    (guarded work).run.run session =
      work.run.run { session with clock := session.clock.renew } := by
  have admitted : check.run.run session = (.ok (), session) := by
    change (session.exchange.context.resume session.clock, session) = _
    rw [live]
  exact run_bind_of_ok admitted _

theorem acquire_run_of_closed {session : Session} (closed : session.closed = true) :
    acquire.run.run session = (.error (BackendFailure.toDataError .poolClosed), session) := by
  refine (run_get_bind _ session).trans ?_
  rw [if_pos closed]
  rfl

/-- While all connections are in use, a call waits for one in vain. -/
theorem acquire_run_of_exhausted {session : Session} (opened : session.closed ≠ true)
    (exhausted : session.isExhausted = true) : ∃ error clock,
      acquire.run.run session = (.error error, { session with clock }) ∧
        error.isMapping = false := by
  have waited := wait_run session.pool.patience session
  rcases slept : session.exchange.context.sleep session.clock session.pool.patience with
    ⟨error | _, clock⟩
  · rw [slept] at waited
    refine ⟨error, clock, ?_, Context.sleep_unmapped (congrArg Prod.fst slept)⟩
    refine (run_get_bind _ session).trans ?_
    rw [if_neg opened, if_pos exhausted]
    exact run_bind_of_error waited _
  · rw [slept] at waited
    refine ⟨BackendFailure.toDataError .poolTimedOut, clock, ?_, rfl⟩
    refine (run_get_bind _ session).trans ?_
    rw [if_neg opened, if_pos exhausted]
    exact run_bind_of_ok waited _

theorem acquire_run_of_left {session : Session} (opened : session.closed ≠ true)
    (left : session.isExhausted ≠ true) :
    ∃ clock, acquire.run.run session = (.ok (), { session with clock }) := by
  by_cases returning : session.isReturning = true
  · refine ⟨session.clock.suspend.pass, ?_⟩
    refine (run_get_bind _ session).trans ?_
    rw [if_neg opened, if_neg left, if_pos returning]
    rfl
  · refine ⟨session.clock.pass, ?_⟩
    refine (run_get_bind _ session).trans ?_
    rw [if_neg opened, if_neg left, if_neg returning]
    rfl

/-- Taking a connection of the pool only lets time pass, and it succeeds only if one is left. -/
theorem acquire_run (session : Session) :
    (∃ error clock, acquire.run.run session = (.error error, { session with clock }) ∧
      error.isMapping = false) ∨
    session.active.length + session.lost < session.pool.size ∧
      ∃ clock, acquire.run.run session = (.ok (), { session with clock }) := by
  by_cases closed : session.closed = true
  · exact .inl ⟨_, session.clock, acquire_run_of_closed closed, rfl⟩
  by_cases exhausted : session.isExhausted = true
  · exact .inl (acquire_run_of_exhausted closed exhausted)
  · refine .inr ⟨?_, acquire_run_of_left closed exhausted⟩
    exact Nat.not_le.1 fun full => exhausted (decide_eq_true full)

/-- Opening a transaction fails or succeeds, and says so. -/
theorem beginTransaction_run (session : Session) :
    (∃ error after, beginTransaction.run.run session = (.error error, after) ∧
      session.Refuses error after) ∨
    ∃ handle after, beginTransaction.run.run session = (.ok handle, after) ∧
      session.Opens handle after := by
  rcases live : session.exchange.context.resume session.clock with error | _
  · exact .inl ⟨error, session, guarded_run_of_dead live _,
      rfl, rfl, rfl, rfl, rfl, .inl rfl, Context.resume_unmapped live⟩
  unfold beginTransaction
  rw [guarded_run_of_live live]
  obtain ⟨error, clock, taken, unmapped⟩ | ⟨idle, clock, taken⟩ :=
    acquire_run { session with clock := session.clock.renew }
  · exact .inl ⟨error, _, run_bind_of_error taken _, rfl, rfl, rfl, rfl, rfl, .inl rfl, unmapped⟩
  rw [run_bind_of_ok taken]
  -- from here on the `BEGIN` is logged, and the backend says what comes of it
  let logged : Session :=
    { session with
      clock
      exchange := { session.exchange with log := session.exchange.log ++ [.begin] } }
  have recorded (next : Unit → Engine TransactionHandle) :
      (record .begin >>= next).run.run { session with clock } = (next ()).run.run logged := rfl
  rcases refused : session.exchange.failures.begin with _ | failure
  · refine .inr
      ⟨⟨session.begun⟩, logged.opening, ?_, rfl, idle, refused, rfl, rfl, rfl, rfl, rfl, rfl⟩
    refine (recorded _).trans ((run_get_bind _ logged).trans ?_)
    simp only [logged, refused]
    rfl
  · refine .inl ⟨failure.toDataError, logged.releasing, ?_,
      rfl, rfl, rfl, rfl, rfl, .inr ⟨rfl, failure, refused, rfl⟩, failure.toDataError_isMapping⟩
    refine (recorded _).trans ((run_get_bind _ logged).trans ?_)
    simp only [logged, refused]
    rfl

section Open

variable {handle : TransactionHandle} {session : Session}

theorem requireOpen_run_of_open (isOpen : handle ∈ session.active) :
    (requireOpen handle).run.run session =
      (.ok (), { session with clock := session.clock.pass }) := by
  have joined : ¬handle ∉ session.active := fun ended => ended isOpen
  change (if handle ∉ session.active then throw _ else pure () : Engine Unit).run.run _ = _
  rw [if_neg joined]
  rfl

theorem requireOpen_run_of_ended (ended : handle ∉ session.active) :
    (requireOpen handle).run.run session =
      (.error (.configuration .transactionFinished),
        { session with clock := session.clock.pass }) := by
  change (if handle ∉ session.active then throw _ else pure () : Engine Unit).run.run _ = _
  rw [if_pos ended]
  rfl

/-- Ending a transaction that is open always succeeds in ending it, whatever it reports. -/
theorem endTransaction_run (result : Except DataError α) (isOpen : handle ∈ session.active) :
    ∃ after, (endTransaction handle result).run.run session =
        (session.exchange.failures.settle result, after) ∧ session.Ends handle result after := by
  let apart : Session := { session with clock := session.clock.pass }.without handle
  let logged : Session :=
    { apart with
      exchange := { session.exchange with log := session.exchange.log ++ [closing result] } }
  have ends (failure : Option BackendFailure) :
      session.Ends handle result (logged.leaving failure) := by
    refine ⟨logged.pool_leaving failure, logged.lost_leaving failure,
      logged.active_leaving failure, logged.begun_leaving failure, ?_, ?_⟩
    · rw [logged.exchange_leaving]
    · rw [logged.exchange_leaving]
  have required (next : Unit → Engine α) := run_bind_of_ok (requireOpen_run_of_open isOpen) next
  cases result with
  | error error =>
    exact ⟨logged.leaving session.exchange.failures.rollback, required _, ends _⟩
  | ok value =>
    refine ⟨logged.leaving session.exchange.failures.commit, (required _).trans ?_, ends _⟩
    -- the connection has been let go before the backend's failure is reported
    change (do failWith session.exchange.failures.commit; return value : Engine α).run.run
      (logged.leaving session.exchange.failures.commit) = _
    rw [ControlFailures.settle]
    cases session.exchange.failures.commit <;> rfl

/-- The end of a transaction that has ended already changes nothing. -/
theorem endTransaction_run_of_ended (result : Except DataError α)
    (ended : handle ∉ session.active) :
    (endTransaction handle result).run.run session =
      (.error (.configuration .transactionFinished),
        { session with clock := session.clock.pass }) :=
  run_bind_of_error (requireOpen_run_of_ended ended) _

end Open

theorem transaction_run_of_refused {session after : Session} {error : DataError}
    (refused : beginTransaction.run.run session = (.error error, after))
    (unit : TransactionHandle → Engine α) :
    (transaction unit).run.run session = (.error error, after) :=
  run_bind_of_error refused _

theorem transaction_run_of_opened {session opened worked : Session} {handle : TransactionHandle}
    {unit : TransactionHandle → Engine α} {result : Except DataError α}
    (begun : beginTransaction.run.run session = (.ok handle, opened))
    (done : (unit handle).run.run opened = (result, worked)) :
    (transaction unit).run.run session = (endTransaction handle result).run.run worked :=
  (run_bind_of_ok begun _).trans (run_bind_of_ok (outcome_run done) _)

/-- A whole unit of work in a transaction: it has been opened, run and ended. -/
theorem transaction_run {faults : DataError → Prop} (unit : TransactionHandle → Engine α)
    (advancing : ∀ handle, Advancing faults (unit handle)) (session : Session) :
    (∃ error after, beginTransaction.run.run session = (.error error, after) ∧
      session.Refuses error after ∧
      (transaction unit).run.run session = (.error error, after)) ∨
    ∃ handle opened result worked after,
      beginTransaction.run.run session = (.ok handle, opened) ∧ session.Opens handle opened ∧
      (unit handle).run.run opened = (result, worked) ∧ opened.Advances worked ∧
      worked.Ends handle result after ∧
      (transaction unit).run.run session = (session.exchange.failures.settle result, after) := by
  obtain ⟨error, after, begun, refused⟩ | ⟨handle, opened, begun, opens⟩ :=
    beginTransaction_run session
  · exact .inl ⟨error, after, begun, refused, transaction_run_of_refused begun unit⟩
  rcases done : (unit handle).run.run opened with ⟨result, worked⟩
  have advanced := (advancing handle opened).1
  rw [done] at advanced
  have isOpen : handle ∈ worked.active := by
    rw [advanced.active, opens.active]
    exact List.mem_cons_self
  obtain ⟨after, finished, ends⟩ := endTransaction_run result isOpen
  refine .inr ⟨handle, opened, result, worked, after, begun, opens, done, advanced, ends, ?_⟩
  rw [transaction_run_of_opened begun done, finished, advanced.failures, opens.failures]

end Engine

end DataAccess
