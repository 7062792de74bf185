import DataAccess.Engine.Session

/-! Transactions. A unit of work runs between `BEGIN` and exactly one of `COMMIT` and `ROLLBACK`,
whatever it does: it is committed when it gives a result and rolled back when it fails, and then the
failure of the unit is reported even if the rollback fails too. Afterwards the handle of the
transaction is dead. -/
namespace DataAccess

inductive Binding where
  /-- each call takes a connection from the pool -/
  | pool
  /-- every call joins a transaction -/
  | transaction (handle : TransactionHandle)

namespace Engine

/-- Take a connection of the pool. Open transactions hold theirs, and do not end while a call waits.
One that was let go in this turn comes back while the call is suspended. -/
def acquire : Engine Unit := do
  let session ← get
  if session.closed then throw (BackendFailure.toDataError .poolClosed)
  if session.isExhausted then
    wait session.pool.patience
    throw (BackendFailure.toDataError .poolTimedOut)
  if session.isReturning then modifyClock Clock.suspend
  modifyClock Clock.pass

def release : Engine Unit := modify Session.releasing

def pooled (work : Engine α) : Engine α := do
  acquire
  let result ← outcome work
  release
  result

/-- Fail if the transaction of a handle is not open. -/
def requireOpen (handle : TransactionHandle) : Engine Unit := do
  modifyClock Clock.pass
  if handle ∉ (← get).active then throw (.configuration .transactionFinished)

/-- Run work in a transaction, which can be joined while it is open. -/
def joined (handle : TransactionHandle) (work : Engine α) : Engine α := do
  requireOpen handle
  work

def connected : Binding → Engine α → Engine α
  | .pool => pooled
  | .transaction handle => joined handle

def beginTransaction : Engine TransactionHandle := guarded do
  acquire
  record .begin
  let session ← get
  match session.exchange.failures.begin with
  | some failure =>
    release
    throw failure.toDataError
  | none =>
    modify Session.opening
    return ⟨session.begun⟩

/-- Ask the backend to end a transaction, and let its connection go. What the driver does on its own
account with a transaction that could not be ended is not asked for here, and not logged. -/
def leave (event : Event) (failure : Option BackendFailure) : Engine Unit := do
  record event
  modify (·.leaving failure)

/-- End a transaction as the result of its unit of work demands. -/
def endTransaction (handle : TransactionHandle) (result : Except DataError α) : Engine α := do
  requireOpen handle
  modify (·.without handle)
  let failures := (← get).exchange.failures
  match result with
  | .ok value =>
    leave .commit failures.commit
    failWith failures.commit
    return value
  | .error error =>
    leave .rollback failures.rollback
    throw error

def transaction (work : TransactionHandle → Engine α) : Engine α := do
  let handle ← beginTransaction
  endTransaction handle (← outcome (work handle))

end Engine

end DataAccess
