import DataAccess.Proofs.Repository.Transaction

/-! When faults of the mapping are found. Neither the backend nor the context of a call gives rise
to one, so an operation reports one only where it plans a statement; and but for the statements that
are planned late, it plans before it sends anything. -/
namespace DataAccess

/-- What a call has sent when it reports a fault of the mapping that it found in time: nothing, or a
transaction of its own without statements. -/
def Session.Untouched (binding : Binding) (before after : Session) : Prop :=
  after.exchange.log = before.exchange.log ∨
    binding = .pool ∧ after.exchange.log = before.exchange.log ++ [.begin, .rollback]

theorem ControlFailures.error_of_settle {failures : ControlFailures} {α : Type}
    {result : Except DataError α} {error : DataError}
    (settled : failures.settle result = .error error) (mapping : error.isMapping = true) :
    result = .error error := by
  cases result with
  | error error' => exact settled
  | ok value =>
    unfold settle at settled
    cases refused : failures.commit with
    | none =>
      rw [refused] at settled
      contradiction
    | some failure =>
      rw [refused] at settled
      cases settled
      rw [failure.toDataError_isMapping] at mapping
      contradiction

theorem Engine.Planned.reports {faults : DataError → Prop} {binding : Binding} {α : Type}
    {call : Engine α} (planned : Planned faults binding call) {session after : Session}
    {error : DataError} (failed : call.run.run session = (.error error, after))
    (mapping : error.isMapping = true) :
    faults error ∨ session.Untouched binding after := by
  induction planned generalizing session after error with
  | exchanges exchanges =>
    have known := (exchanges.advancing session).2
    rw [failed] at known
    exact .inl (known error rfl mapping)
  | plan result planned next =>
    cases result with
    | error error' =>
      cases failed
      exact .inr (.inl rfl)
    | ok value => exact next value rfl failed mapping
  | locale fallback planned next => exact next _ failed mapping
  | @bind _ _ _ call next first second ih =>
    rcases ran : call.run.run session with ⟨error' | value, later⟩
    · rw [run_bind_of_error ran] at failed
      cases failed
      exact ih ran mapping
    · rw [run_bind_of_ok ran] at failed
      have known := ((second value).advancing later).2
      rw [failed] at known
      exact .inl (known error rfl mapping)
  | @transaction _ unit planned ih =>
    obtain ⟨error', after', _, refused, answered⟩ |
        ⟨handle, opened, result, worked, after', _, opens, ran, _, ends, answered⟩ :=
      transaction_run unit (fun handle => (planned handle).advancing) session
    · rw [answered] at failed
      cases failed
      rw [refused.unmapped] at mapping
      contradiction
    · rw [answered] at failed
      obtain ⟨settled, rfl⟩ := Prod.mk.inj failed
      obtain rfl := ControlFailures.error_of_settle settled mapping
      refine (ih handle ran mapping).imp_right fun untouched => .inr ⟨rfl, ?_⟩
      rcases untouched with unsent | ⟨bound, _⟩
      · exact ends.log_of_opens opens (unsent.trans (List.append_nil _).symm)
      · contradiction

namespace Repository

variable {schema : Schema}

/-- An operation that reports a fault of the mapping has sent nothing but a transaction of its own
that it has rolled back, except for the faults that it finds late: those of a relation that is
loaded with the rows, and those of a row that is created after another one. -/
theorem mapping_faults_come_first (repository : Repository schema) (operation : Operation schema)
    {session after : Session} {error : DataError}
    (failed : (repository.perform operation).run.run session = (.error error, after))
    (mapping : error.isMapping = true) :
    operation.LateFault repository error ∨ session.Untouched repository.binding after :=
  (repository.planned_perform operation).reports failed mapping

/-- Users in a table that no statement can name. -/
def misplacedSchema : Schema := ⟨"user list", .i64, "id", ["id"], none, none, [("id", .id)]⟩

def misplacedUsers : Repository misplacedSchema := ⟨.empty, .default, .pool⟩

def misplacedCreation : Operation misplacedSchema := .createMany [⟨(1 : Int64), [], .empty⟩]

theorem mapping_faults_come_first_of_table :
    let fault := DataError.configuration (.query (.invalidIdentifier .table "user list"))
    ∃ after, (misplacedUsers.perform misplacedCreation).run.run .fresh = (.error fault, after) ∧
      fault.isMapping = true ∧
      (misplacedCreation.LateFault misplacedUsers fault ∨ Session.fresh.Untouched .pool after) ∧
      after.exchange.log = [.begin, .rollback] := by
  intro fault
  refine ⟨_, rfl, rfl, ?_, rfl⟩
  exact misplacedUsers.mapping_faults_come_first misplacedCreation rfl rfl

/-- Users who are read with their orders, from a table that no statement can name. -/
def orderingSchema : Schema := ⟨"users", .i64, "id", ["id", "name"], none, none, [("id", .id)]⟩

def orderingUsers : Repository orderingSchema :=
  ⟨{ Spec.empty with preloads := [.ofKey "orders" "order lines" "user_id"] }, .default, .pool⟩

def nameChange : Operation orderingSchema :=
  .updateById (1 : Int64) (.ofList [("name", .text "ann")])

/-- A session whose backend updates one row and reads it again. -/
def updating : Session :=
  { Session.fresh with
    exchange := { Exchange.silent with
      replies := [{ Reply.empty with affected := 1 },
        { Reply.empty with rows := [[("id", .bigint 1)]] }] } }

def nameChangeRun : Except DataError (Outcome orderingSchema) × Session :=
  (orderingUsers.perform nameChange).run.run updating

/-- The fault of a relation is found when the row has been updated. -/
theorem relation_is_refused_after_update :
    nameChangeRun.1 =
      .error (.configuration (.query (.invalidIdentifier .table "order lines"))) ∧
    nameChangeRun.2.exchange.log =
      [.statement "UPDATE users SET name = ? WHERE users.id = ?" [.text "ann", .int 1],
        .statement "SELECT * FROM users WHERE users.id = ? ORDER BY users.id ASC LIMIT 1"
          [.int 1]] := by
  have refused : (nameChangeRun.1.map fun _ => ()) =
      .error (.configuration (.query (.invalidIdentifier .table "order lines"))) := by
    decide +kernel
  exact ⟨eq_error_of_map refused, by decide +kernel⟩

end Repository

end DataAccess
