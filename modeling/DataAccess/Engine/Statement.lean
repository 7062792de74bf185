import DataAccess.Engine.Session
import DataAccess.Plan.Writing

/-! Sending statements. A statement whose arguments cannot be bound is not sent. One that is sent is
logged before its reply is awaited, and the reply may come late, fail, or find the call cancelled.
-/
namespace DataAccess.Engine

def send (statement : Statement) : Engine Reply := do
  let args ← statement.bind
  record (.statement statement.sql args)
  let reply ← nextReply
  if reply.cancels then cancel
  if let some delay := reply.delay then wait delay
  failWith reply.failure
  return reply

def fetchRows (statement : Statement) : Engine (List ResultRow) := do
  return (← send statement).rows

def fetchFirst (statement : Statement) : Engine (Option ResultRow) := do
  return (← fetchRows statement).head?

/-- Send a statement that writes; the number of rows it affected. -/
def execute (statement : Statement) : Engine UInt64 := do
  return (← send statement).affected

/-- The count in the first column of a row. A negative one counts as none. -/
def countOf : Value → Except DataError UInt64
  | .int n => .ok (UInt64.ofNat n.toInt.toNat)
  | .uint n => .ok n
  | value => .error (.other (.countOfKind value.kind))

def fetchCount (statement : Statement) : Engine UInt64 := do
  match ← fetchFirst statement with
  | some row => countOf (← row.decodeAt 0)
  | none => throw (.other .countWithoutRow)

def identityOf (row : ResultRow) : Except DataError IdValue := do
  IdValue.ofValue (← row.decodeAt 0)

/-- The identity that the backend inserted last, as it reports it. -/
def lastInserted (reply : Reply) : Except DataError IdValue :=
  match reply.lastId with
  | some id => .ok (.int id)
  | none => .error (.configuration .noLastInsertId)

/-- Find a written row by its conflict columns. -/
def lookUp (statement : Statement) : Engine IdValue := do
  match ← fetchFirst statement with
  | some row => identityOf row
  | none => throw (.notFound .writtenRow)

def writeRow (write : Write) : Engine IdValue :=
  match write.id with
  | .known id => do
    let _ ← send write.statement
    return id
  | .returning => do
    match ← fetchFirst write.statement with
    | some row => identityOf row
    | none => throw (.other .writeWithoutIdentity)
  | .lastInsertId => do lastInserted (← send write.statement)
  | .lookup statement => do
    let _ ← send write.statement
    lookUp statement

/-- Make a guarded insertion: the identity of the row, or nothing if none was written. -/
def writeIfAbsent (write : Write) : Engine (Option IdValue) :=
  match write.id with
  | .returning => do
    match ← fetchFirst write.statement with
    | some row => return some (← identityOf row)
    | none => return none
  | source => do
    let reply ← send write.statement
    if reply.affected = 0 then return none
    match source with
    | .known id => return some id
    | .lookup statement => return some (← lookUp statement)
    | _ => return some (← lastInserted reply)

end DataAccess.Engine
