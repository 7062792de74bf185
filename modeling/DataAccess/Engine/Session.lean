import DataAccess.Backend.Argument
import DataAccess.Backend.Reply
import DataAccess.Context
import DataAccess.Locale

/-! Sessions with a backend. A session has a clock, a pool of connections, the transactions that are
open on them, and the exchange of the call that is being made: the replies still to come, the
context and locale of the call, and the log of what it has asked the backend for. Computations on a
session either give a result or fail with an error of the data layer; what has been sent stays sent.

The pool and what it does with its connections is not part of this library. How large it is, how
long it lets a call wait, and whether it gets a connection back after a transaction could not be
ended, are values of the session. -/
namespace DataAccess

inductive Event where
  | statement (sql : String) (args : List Argument)
  | begin
  | commit
  | rollback
deriving DecidableEq

def Event.isControl : Event → Bool
  | statement _ _ => false
  | _ => true

structure ControlFailures where
  begin : Option BackendFailure
  commit : Option BackendFailure
  rollback : Option BackendFailure

def ControlFailures.none : ControlFailures := ⟨.none, .none, .none⟩

instance : Inhabited ControlFailures := ⟨.none⟩

structure Exchange where
  /-- the replies still to come; after the last one every reply is empty -/
  replies : List Reply
  failures : ControlFailures
  context : Context
  scope : LocaleScope
  /-- what has been sent, in order -/
  log : List Event

def Exchange.silent : Exchange := ⟨[], .none, .unlimited, none, []⟩

instance : Inhabited Exchange := ⟨.silent⟩

/-- A transaction, by its number in the session. -/
structure TransactionHandle where
  number : Nat
deriving DecidableEq

structure Pool where
  /-- how many connections can be in use at a time -/
  size : Nat
  /-- how long a call waits for a connection, in milliseconds -/
  patience : Nat
  /-- whether a connection can be used again whose transaction the backend has failed to end -/
  recovers : BackendFailure → Bool

/-- A pool of one connection. A transaction that is dropped without an end is rolled back before the
connection is used again. -/
def Pool.single : Pool := ⟨1, 30000, fun _ => true⟩

structure Session where
  clock : Clock
  pool : Pool
  /-- whether the pool has been closed -/
  closed : Bool
  /-- how many transactions have begun -/
  begun : Nat
  /-- the open transactions, each of which holds a connection -/
  active : List TransactionHandle
  /-- a transaction that is open has begun -/
  numbered : ∀ handle ∈ active, handle.number < begun
  /-- how many connections the pool did not get back -/
  lost : Nat
  /-- the turns of the clock in which connections were let go; a connection is back in the pool as
  soon as its turn has ended -/
  released : List Nat
  exchange : Exchange

namespace Session

/-- A session at its start. Making the pool has waited for a connection once. -/
def start (pool : Pool) (timing : Timing) : Session where
  clock := (Clock.startUnder timing).pass
  pool := pool
  closed := false
  begun := 0
  active := []
  numbered := nofun
  lost := 0
  released := []
  exchange := .silent

def fresh : Session := .start .single .standard

instance : Inhabited Session := ⟨.fresh⟩

/-- Whether the pool has no connection left that is not in use. -/
def isExhausted (session : Session) : Bool :=
  decide (session.pool.size ≤ session.active.length + session.lost)

/-- Whether the connections that are not in use are all on their way back. -/
def isReturning (session : Session) : Bool :=
  decide (session.pool.size ≤
    session.active.length + session.lost + session.released.count session.clock.turn)

def opening (session : Session) : Session :=
  { session with
    begun := session.begun + 1
    active := ⟨session.begun⟩ :: session.active
    numbered := List.forall_mem_cons.2 ⟨Nat.lt_succ_self _,
      fun handle member => Nat.lt_succ_of_lt (session.numbered handle member)⟩ }

def without (session : Session) (handle : TransactionHandle) : Session :=
  { session with
    active := session.active.filter (· ≠ handle)
    numbered := fun other member => session.numbered other (List.mem_filter.1 member).1 }

def releasing (session : Session) : Session :=
  { session with released := session.clock.turn :: session.released }

/-- The session in which the connection of a transaction has been let go, which the backend has
ended or failed to end. -/
def leaving (session : Session) (failure : Option BackendFailure) : Session :=
  if failure.all session.pool.recovers then session.releasing
  else { session with lost := session.lost + 1 }

end Session

abbrev Engine (α : Type) := ExceptT DataError (StateM Session) α

namespace Engine

def modifyExchange (change : Exchange → Exchange) : Engine Unit :=
  modify fun session => { session with exchange := change session.exchange }

def modifyClock (change : Clock → Clock) : Engine Unit :=
  modify fun session => { session with clock := change session.clock }

def check : Engine Unit := do
  let session ← get
  session.exchange.context.resume session.clock

/-- Sleep, unless the context of the call ends first. -/
def wait (duration : Nat) : Engine Unit := do
  let session ← get
  let (result, clock) := session.exchange.context.sleep session.clock duration
  set { session with clock }
  result

/-- A section of work that a dead context does not enter. -/
def guarded (work : Engine α) : Engine α := do
  check
  modifyClock Clock.renew
  work

def record (event : Event) : Engine Unit :=
  modifyExchange fun exchange => { exchange with log := exchange.log ++ [event] }

def nextReply : Engine Reply := do
  let session ← get
  match session.exchange.replies with
  | [] => return .empty
  | reply :: replies =>
    modifyExchange fun exchange => { exchange with replies }
    return reply

def cancel : Engine Unit :=
  modifyExchange fun exchange => { exchange with context := exchange.context.cancel }

def failWith : Option BackendFailure → Engine Unit
  | some failure => throw failure.toDataError
  | none => return ()

/-- The result of a computation as a value, be it an error or not. -/
def outcome (computation : Engine α) : Engine (Except DataError α) :=
  ExceptT.mk do
    let result ← computation.run
    return .ok result

def locale (fallback : String) : Engine String := do
  return (← get).exchange.scope.currentOr fallback

end Engine

end DataAccess
