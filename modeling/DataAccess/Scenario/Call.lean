import DataAccess.Scenario.Operation

/-! Scenarios: calls made one after the other in a session whose backend answers from a script. Each
call has its own replies, context and log. A transaction runs calls inside it, and may leave its
handle behind for later calls. -/
namespace DataAccess

structure Setup where
  replies : List Reply
  failures : ControlFailures
  cancelled : Bool
  /-- milliseconds from the start of the call to its deadline -/
  timeout : Option Nat
  /-- the locale that the call runs in, if it binds one -/
  locale : Option String

/-- The exchange of a call that starts now, inside a locale scope. -/
def Setup.exchange (setup : Setup) (now : Nat) (scope : LocaleScope) : Exchange where
  replies := setup.replies
  failures := setup.failures
  context := ⟨setup.cancelled, setup.timeout.map (now + ·)⟩
  scope := scope.enter setup.locale
  log := []

/-- How the calls of a unit of work end it. -/
structure Ending where
  /-- whether the unit goes on after a call has failed -/
  keepGoing : Bool
  /-- the error that the unit states after its calls, if it does -/
  abort : Option String

inductive Call (schema : Schema) where
  | operation (setup : Setup) (operation : Operation schema)
  /-- a transaction of the repository, or with `free` of the pool itself; with `keep` its handle is
  left behind -/
  | transaction (setup : Setup) (free keep : Bool) (calls : List (Call schema)) (ending : Ending)
  /-- calls through the handle that was left behind -/
  | afterwards (setup : Setup) (calls : List (Call schema)) (ending : Ending)
  /-- look at the repository itself -/
  | inspect (setup : Setup)
  /-- close the pool -/
  | close (setup : Setup)

/-- What a call sent, and how many of its replies were left over. -/
structure Transcript where
  log : List Event
  unused : Nat

inductive Answer (schema : Schema) where
  | operation (result : Except DataError (Outcome schema)) (transcript : Transcript)
  /-- the answers of the calls inside, if the unit of work was run -/
  | work (result : Except DataError Unit) (answers : Option (List (Answer schema)))
    (transcript : Transcript)
  | repository (repository : Repository schema) (transcript : Transcript)
  | closed (transcript : Transcript)

def Answer.error? {schema : Schema} : Answer schema → Option DataError
  | operation (.error error) _ => some error
  | work (.error error) _ _ => some error
  | _ => none

/-- The result of a unit of work with these answers. -/
def Ending.result {schema : Schema} (ending : Ending) (answers : List (Answer schema)) :
    Except DataError Unit :=
  match (if ending.keepGoing then none else answers.findSome? Answer.error?), ending.abort with
  | some error, _ => .error error
  | none, some text => .error (.other (.stated text))
  | none, none => .ok ()

/-- A session and the transaction handle left behind in it. -/
structure Stage where
  session : Session
  kept : Option TransactionHandle

def Stage.fresh : Stage := ⟨.fresh, none⟩

namespace Stage

def run (computation : Engine α) : StateM Stage (Except DataError α) := fun stage =>
  let (result, session) := computation.run.run stage.session
  (result, { stage with session })

/-- Put an exchange in the place of the present one, which is given back. -/
def swap (exchange : Exchange) : StateM Stage Exchange := fun stage =>
  (stage.session.exchange, { stage with session := { stage.session with exchange } })

/-- Run work in an exchange of its own. -/
def within (setup : Setup) (work : StateM Stage α) : StateM Stage (α × Transcript) := do
  let session := (← get).session
  let outer ← swap (setup.exchange session.clock.now session.exchange.scope)
  let result ← work
  let inner ← swap outer
  return (result, ⟨inner.log, inner.replies.length⟩)

end Stage

mutual

def Call.make {schema : Schema} (repository : Repository schema) :
    Call schema → StateM Stage (Answer schema)
  | .operation setup operation => do
    let (result, transcript) ← Stage.within setup (Stage.run (repository.perform operation))
    return .operation result transcript
  | .transaction setup free keep calls ending => do
    let ((result, answers), transcript) ← Stage.within setup do
      let opening := if free then Engine.beginTransaction else repository.beginTransaction
      match ← Stage.run opening with
      | .error error => return (.error error, none)
      | .ok handle =>
        if keep then modify fun stage => { stage with kept := some handle }
        let answers ← makeAll (repository.join handle) ending.keepGoing calls
        let result ← Stage.run (Engine.endTransaction handle (ending.result answers))
        return (result, some answers)
    return .work result answers transcript
  | .afterwards setup calls ending => do
    let (answers, transcript) ← Stage.within setup do
      match (← get).kept with
      | some handle => makeAll (repository.join handle) ending.keepGoing calls
      | none => return []
    return .work (ending.result answers) (some answers) transcript
  | .inspect setup => do
    let (_, transcript) ← Stage.within setup (return ())
    return .repository repository transcript
  | .close setup => do
    let (_, transcript) ← Stage.within setup
      (modify fun stage => { stage with session := { stage.session with closed := true } })
    return .closed transcript

/-- Make calls in order, up to the first one that fails unless they keep going. -/
def makeAll {schema : Schema} (repository : Repository schema) (keepGoing : Bool) :
    List (Call schema) → StateM Stage (List (Answer schema))
  | [] => return []
  | call :: rest => do
    let answer ← call.make repository
    if answer.error?.isSome && !keepGoing then return [answer]
    return answer :: (← makeAll repository keepGoing rest)

end

/-- The answers of the calls of a scenario, which are made on a repository of a fresh pool. -/
def scenario {schema : Schema} (repository : Repository schema) (calls : List (Call schema)) :
    List (Answer schema) :=
  ((makeAll repository true calls).run .fresh).1

end DataAccess
