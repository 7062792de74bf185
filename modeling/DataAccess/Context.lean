import DataAccess.Error
import DataAccess.Number.Power

/-! Call contexts. A call carries a cancellation flag and perhaps a deadline, and time passes on a
virtual clock that moves only while something sleeps. A guarded section of work is refused when the
context is already dead, and is interrupted whenever it suspends while the context is dead or when
the deadline comes before the end of a sleep. Cancellation is noticed before the deadline, and the
deadline before the work. A wait that is over at once does not suspend, except that work which waits
again and again has to suspend after a number of waits. -/
namespace DataAccess

/-- The limits of the timers and of the scheduler that work runs under. -/
structure Timing where
  /-- so many waits may be over in a row without a suspension -/
  waits : Nat
  /-- in milliseconds; a longer sleep ends then -/
  longestSleep : Nat
  /-- a timer for a later time goes off then -/
  lastTick : Nat

/-- Nothing sleeps for more than thirty years. -/
def Timing.standard : Timing := ⟨128, 30 * 365 * 24 * 60 * 60 * 1000, powerOfTwo 64 - 3⟩

/-- The virtual clock as work sees it. -/
structure Clock where
  timing : Timing
  /-- in milliseconds -/
  now : Nat
  /-- how often the work has suspended -/
  turn : Nat
  /-- the waits that may be over before the work has to suspend -/
  allowance : Nat

namespace Clock

def startUnder (timing : Timing) : Clock := ⟨timing, 0, 0, timing.waits⟩

def start : Clock := .startUnder .standard

def suspendUntil (clock : Clock) (time : Nat) : Clock :=
  ⟨clock.timing, time, clock.turn + 1, clock.timing.waits⟩

def suspend (clock : Clock) : Clock := clock.suspendUntil clock.now

/-- Suspend if no more waits may be over without it. -/
def renew (clock : Clock) : Clock := if clock.allowance = 0 then clock.suspend else clock

def pass (clock : Clock) : Clock :=
  { clock.renew with allowance := clock.renew.allowance - 1 }

end Clock

structure Context where
  cancelled : Bool
  /-- in milliseconds on the virtual clock -/
  deadline : Option Nat

namespace Context

/-- A context that nothing ends. -/
def unlimited : Context := ⟨false, none⟩

instance : Inhabited Context := ⟨unlimited⟩

def cancel (context : Context) : Context := { context with cancelled := true }

def withTimeout (context : Context) (now timeout : Nat) : Context :=
  { context with deadline := some (now + timeout) }

def isExpired (context : Context) (now : Nat) : Bool :=
  match context.deadline with
  | some deadline => decide (deadline ≤ now)
  | none => false

def check (context : Context) (now : Nat) : Except DataError Unit :=
  if context.cancelled then .error .cancelled
  else if context.isExpired now then .error .deadlineExceeded
  else .ok ()

def alarm? (context : Context) (timing : Timing) : Option Nat :=
  context.deadline.map (min · timing.lastTick)

/-- Whether the timer of the deadline has gone off. -/
def isDue (context : Context) (timing : Timing) (now : Nat) : Bool :=
  match context.alarm? timing with
  | some alarm => decide (alarm ≤ now)
  | none => false

/-- Let work go on after a suspension, or let it in, unless the context ends it. -/
def resume (context : Context) (clock : Clock) : Except DataError Unit :=
  if context.cancelled then .error .cancelled
  else if context.isDue clock.timing clock.now then .error .deadlineExceeded
  else .ok ()

/-- Sleep inside a guarded section: whether the section goes on, and the clock then. A sleep that
ends at the deadline is interrupted, and the clock stops there. A sleep that is over at once
suspends only if no more waits may be over without it. -/
def sleep (context : Context) (clock : Clock) (duration : Nat) : Except DataError Unit × Clock :=
  let timing := clock.timing
  let finish :=
    max clock.now (min (clock.now + min duration timing.longestSleep) timing.lastTick)
  if finish = clock.now ∧ 0 < clock.allowance then (.ok (), clock.pass)
  else if context.cancelled then (.error .cancelled, clock.suspend)
  else if context.isDue timing finish then
    let alarm := max clock.now ((context.alarm? timing).getD finish)
    (.error .deadlineExceeded, (clock.suspendUntil alarm).pass)
  else (.ok (), (clock.suspendUntil finish).pass)

end Context

inductive WorkStep where
  | sleep (duration : Nat)
  /-- suspend without passing time -/
  | yield
  /-- cancel the context of the section itself -/
  | cancel
  | fail (text : String)

namespace Context

def work (context : Context) (clock : Clock) :
    List WorkStep → Except DataError Unit × Context × Clock
  | [] => (.ok (), context, clock)
  | .sleep duration :: rest =>
    match context.sleep clock duration with
    | (.ok _, clock) => context.work clock rest
    | (.error error, clock) => (.error error, context, clock)
  | .yield :: rest =>
    match context.resume clock with
    | .ok _ => context.work clock.suspend rest
    | .error error => (.error error, context, clock.suspend)
  | .cancel :: rest => context.cancel.work clock rest
  | .fail text :: _ => (.error (.other (.stated text)), context, clock)

def run (context : Context) (clock : Clock) (steps : List WorkStep) :
    Except DataError Unit × Context × Clock :=
  match context.resume clock with
  | .ok _ => context.work clock.renew steps
  | .error error => (.error error, context, clock)

end Context

end DataAccess
