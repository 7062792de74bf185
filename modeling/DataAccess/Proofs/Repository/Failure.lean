import DataAccess.Proofs.Engine.Failure
import DataAccess.Proofs.Repository.Transaction

/-! What becomes of an operation when the backend fails. The first statement that is answered with a
failure is the last one that is sent: its error is the answer, and a transaction that the operation
has opened is rolled back, whether or not that fails too. -/
namespace DataAccess

namespace Engine

variable {faults : DataError → Prop} {α : Type}

theorem Planned.attentive {binding : Binding} {call : Engine α}
    (planned : Planned faults binding call) : Attentive call := by
  induction planned with
  | exchanges exchanges => exact exchanges.attentive
  | plan result planned next =>
    cases result with
    | error error => exact .value (.error error)
    | ok value => exact next value rfl
  | locale fallback planned next => exact (Attentive.locale fallback).bind next
  | bind first second ih => exact ih.bind fun value => (second value).attentive
  | transaction planned units =>
    exact .transaction units fun handle => (planned handle).advancing

end Engine

/-- The error that ends a call which awaits a reply: that of its context, if that ends the wait, and
else the failure that the backend reports. -/
inductive Session.Fails (asked : Session) : DataError → Prop
  | interrupted {error : DataError} (ended : asked.arrival = .error error) : Fails asked error
  | reported {failure : BackendFailure} (arrived : asked.arrival = .ok ())
    (failed : asked.reply.failure = some failure) : Fails asked failure.toDataError

theorem Session.Fails.hearing {asked : Session} {error : DataError} (fails : asked.Fails error) :
    asked.hearing = .error error := by
  unfold Session.hearing
  cases fails with
  | interrupted ended => rw [ended]
  | reported arrived failed => rw [arrived, failed]

theorem Session.arrival_of_prompt {asked : Session} (prompt : asked.reply.delay = none) :
    asked.arrival = .ok () := by
  unfold Session.arrival
  rw [prompt]

namespace Repository

open Engine

variable {schema : Schema}

/-- An operation hears the reply to every statement that it sends. If one fails, the statement is the
last: what follows is at most the `ROLLBACK` of a transaction that the operation has opened, and the
answer is the error. -/
theorem first_failure_ends_operation (repository : Repository schema)
    (operation : Operation schema) (before : Session) :
    ∃ answer after events,
      (repository.perform operation).run.run before = (answer, after) ∧
      after.exchange.log = before.exchange.log ++ events ∧
      ∀ k < statements events, ∃ asked sent,
        Awaits (repository.perform operation) before asked ∧
        asked.exchange.log = before.exchange.log ++ sent ∧ sent <+: events ∧
        statements sent = k + 1 ∧ asked.reply = before.exchange.replies.getD k .empty ∧
        (asked.reply.delay = none → asked.arrival = .ok ()) ∧
        ∀ error, asked.Fails error →
          statements events = k + 1 ∧ events = sent ++ undoing sent ∧ answer = .error error := by
  obtain ⟨answer, after, events, conducts⟩ :=
    (repository.planned_perform operation).attentive before
  refine ⟨answer, after, events, conducts.ran, conducts.log, fun k member => ?_⟩
  obtain ⟨asked, sent, asks⟩ := conducts.asks k member
  refine ⟨asked, sent, asks.awaits, asks.log, asks.begins, asks.count, ?_,
    Session.arrival_of_prompt, fun error fails => ?_⟩
  · rw [Session.reply, asks.replies, List.headD_eq_head?_getD, List.head?_drop,
      List.getD_eq_getElem?_getD]
  · obtain ⟨answered, ends⟩ := asks.ends error fails.hearing
    have quiet : statements (undoing sent) = 0 := by
      unfold undoing
      split <;> rfl
    refine ⟨?_, ends, answered⟩
    rw [ends, statements_append, asks.count, quiet]

/-- A user is created who is not there yet. -/
def creatingAnn : Operation namedSchema :=
  .findOrCreate (.eq "name" (.text "ann")) ⟨(0 : Int64), [("name", .text "ann")], .empty⟩ .default

/-- A session whose backend reports one inserted row, and then fails, also to roll back. -/
def failingReread : Session :=
  { afterInsertion with
    exchange := { afterInsertion.exchange with
      replies := afterInsertion.exchange.replies ++
        [{ Reply.empty with failure := some (.database "gone") }]
      failures := { ControlFailures.none with rollback := some (.database "gone too") } } }

/-- What is sent then: the guarded insertion, and the row is read again in vain. -/
def failingEvents : List Event :=
  [.begin,
    .statement ("INSERT INTO users (name) SELECT ? WHERE NOT EXISTS " ++
      "(SELECT 1 FROM users WHERE name = ?) RETURNING id") [.text "ann", .text "ann"],
    .statement ("SELECT * FROM users WHERE name = ? AND users.id = ? " ++
      "ORDER BY users.id ASC LIMIT 1") [.text "ann", .int 1],
    .rollback]

theorem first_failure_ends_operation_of_reread :
    ∃ answer after asked,
      (namedUsers.perform creatingAnn).run.run failingReread = (answer, after) ∧
      Awaits (namedUsers.perform creatingAnn) failingReread asked ∧
      asked.Fails (BackendFailure.toDataError (.database "gone")) ∧
      answer = .error (BackendFailure.toDataError (.database "gone")) ∧
      after.exchange.log = failingEvents := by
  obtain ⟨answer, after, events, ran, logged, asks⟩ :=
    first_failure_ends_operation namedUsers creatingAnn failingReread
  have whole : ((namedUsers.perform creatingAnn).run.run failingReread).2.exchange.log =
      failingEvents := by
    decide +kernel
  rw [ran] at whole
  have sent : events = after.exchange.log := logged.symm
  have second : 1 < statements events := by
    rw [sent, whole]
    decide
  obtain ⟨asked, _, awaits, _, _, _, reply, prompt, ends⟩ := asks 1 second
  have undelayed : asked.reply.delay = none := by
    rw [reply]
    rfl
  have failed : asked.reply.failure = some (.database "gone") := by
    rw [reply]
    rfl
  have fails := Session.Fails.reported (prompt undelayed) failed
  exact ⟨answer, after, asked, ran, awaits, fails, (ends _ fails).2.2, whole⟩

end Repository

end DataAccess
