import DataAccess.Proofs.Engine.Traffic
import DataAccess.Repository.Basic

/-! Loading rows. Each row of a reply is read as an entity, in order, and relations attach records
to what has been read without changing it. Loading can fail, but it never passes a verdict on the row
that a call looks for: that it has vanished, or that it does not satisfy the condition. -/
namespace DataAccess

variable {α β : Type} {schema : Schema}

/-- Whether an error is the verdict of a call on a row that it has not found again. -/
def DataError.isVerdict : DataError → Bool
  | notFound (.vanished _) => true
  | configuration (.conditionNotSatisfied _) => true
  | _ => false

/-- A result that is a value of a kind, or an error but no verdict. -/
def Impartial (kind : α → Prop) : Except DataError α → Prop
  | .ok value => kind value
  | .error error => error.isVerdict = false

/-- A row of a result shows an entity, whatever records have been attached to it. -/
def ResultRow.Shows (shown : ResultRow) (row : Row schema) : Prop :=
  ∃ entity, shown.toRow schema = .ok entity ∧ row.id = entity.id ∧ row.values = entity.values

theorem BackendFailure.toDataError_isVerdict (failure : BackendFailure) :
    failure.toDataError.isVerdict = false := by
  cases failure <;> rfl

namespace Impartial

variable {kind : α → Prop} {result : Except DataError α}

theorem imp {weaker : α → Prop} (impartial : Impartial kind result)
    (known : ∀ value, kind value → weaker value) : Impartial weaker result := by
  cases result with
  | ok value => exact known value impartial
  | error error => exact impartial

theorem trivially (impartial : Impartial kind result) : Impartial (fun _ => True) result :=
  impartial.imp fun _ _ => trivial

theorem bind {first : α → Prop} {kind : β → Prop} {next : α → Except DataError β}
    (impartial : Impartial first result)
    (goesOn : ∀ value, first value → Impartial kind (next value)) :
    Impartial kind (result >>= next) := by
  cases result with
  | ok value => exact goesOn value impartial
  | error error => exact impartial

theorem mapError (result : Except BackendFailure α) :
    Impartial (fun value => result.mapError BackendFailure.toDataError = .ok value)
      (result.mapError BackendFailure.toDataError) := by
  cases result with
  | ok value => rfl
  | error failure => exact failure.toDataError_isVerdict

/-- What is done to each of some items is as impartial as each step, and keeps the items in order
beside what they come from. -/
theorem mapM {γ : Type} {before : γ → α → Prop} {after : γ → β → Prop}
    {next : α → Except DataError β} {origins : List γ} {items : List α}
    (each : ∀ origin item, before origin item → Impartial (after origin) (next item))
    (related : List.Forall₂ before origins items) :
    Impartial (List.Forall₂ after origins) (items.mapM next) := by
  induction related with
  | nil => exact .nil
  | cons head _ ih =>
    rw [List.mapM_cons]
    exact (each _ _ head).bind fun value known => ih.bind fun rest others => .cons known others

theorem mapM_trivially {next : α → Except DataError β}
    (each : ∀ item, Impartial (fun _ => True) (next item)) (items : List α) :
    Impartial (fun _ => True) (items.mapM next) := by
  have alike (origin item : α) (_ : origin = item) : Impartial (fun _ => True) (next item) :=
    each item
  exact (mapM alike (List.forall₂_refl items)).trivially

end Impartial

theorem Argument.ofValue_impartial (value : Value) :
    Impartial (fun _ => True) (Argument.ofValue value) := by
  unfold Argument.ofValue
  split
  case h_4 =>
    split
    · trivial
    · rfl
  case h_8 => rfl
  all_goals trivial

theorem Statement.bind_impartial (statement : Statement) :
    Impartial (fun _ => True) statement.bind :=
  Impartial.mapM_trivially Argument.ofValue_impartial statement.args

theorem requireIdentifier_impartial (text : String) (kind : IdentifierKind) :
    Impartial (fun _ => True) (requireIdentifier text kind) := by
  unfold requireIdentifier
  cases checkIdentifier text kind with
  | ok _ => trivial
  | error error => rfl

theorem Preload.statement_impartial (preload : Preload) (keys : List Value) (locale : String)
    (dialect : Dialect) : Impartial (fun _ => True) (preload.statement keys locale dialect) := by
  refine (requireIdentifier_impartial _ _).bind fun _ _ => ?_
  refine (requireIdentifier_impartial _ _).bind fun _ _ => ?_
  split
  · exact (requireIdentifier_impartial _ _).bind fun _ _ => trivial
  · trivial

theorem ResultRow.decodeFrom_impartial (row : ResultRow) (index : Nat) (record : Record) :
    Impartial (fun _ => True) (row.decodeFrom index record) := by
  induction row generalizing index record with
  | nil => trivial
  | cons entry rest ih =>
    unfold ResultRow.decodeFrom
    split
    · exact ih _ _
    · exact BackendFailure.toDataError_isVerdict _

theorem ResultRow.toRow_impartial (shown : ResultRow) :
    Impartial shown.Shows (shown.toRow schema) :=
  (Impartial.mapError _).imp fun entity read => ⟨entity, read, rfl, rfl⟩

theorem Row.attach_impartial {shown : ResultRow} {row : Row schema} (shows : shown.Shows row)
    (relation : String) (records : List Record) :
    Impartial shown.Shows (row.attach relation records) := by
  unfold Row.attach
  split
  · rfl
  · split
    · exact shows
    · rfl

theorem Context.sleep_impartial (context : Context) (clock : Clock) (duration : Nat) :
    Impartial (fun _ => True) (context.sleep clock duration).1 := by
  unfold Context.sleep
  dsimp only
  split
  · trivial
  · split
    · rfl
    · split
      · rfl
      · trivial

theorem Session.hearing_impartial (asked : Session) :
    Impartial (fun reply => asked.hearing = .ok reply) asked.hearing := by
  have arrives : Impartial (fun _ => True) asked.arrival := by
    unfold Session.arrival
    dsimp only
    split
    · exact Context.sleep_impartial _ _ _
    · trivial
  unfold Session.hearing
  cases arrival : asked.arrival with
  | error error =>
    rw [arrival] at arrives
    exact arrives
  | ok _ =>
    cases asked.reply.failure with
    | some failure => exact failure.toDataError_isVerdict
    | none => rfl

namespace Engine

/-- Work whose result is impartial, whatever session it is done in. -/
def Impartial (kind : α → Prop) (work : Engine α) : Prop :=
  ∀ session, DataAccess.Impartial kind (work.run.run session).1

namespace Impartial

variable {kind : α → Prop}

theorem value {result : Except DataError α} (impartial : DataAccess.Impartial kind result) :
    Impartial kind (liftM result : Engine α) := fun _ => impartial

theorem pure {value : α} (known : kind value) : Impartial kind (Pure.pure value : Engine α) :=
  fun _ => known

theorem bind {first : α → Prop} {kind : β → Prop} {work : Engine α} {next : α → Engine β}
    (impartial : Impartial first work)
    (goesOn : ∀ value, first value → Impartial kind (next value)) :
    Impartial kind (work >>= next) := by
  intro session
  have here := impartial session
  rcases ran : work.run.run session with ⟨error | value, later⟩
  · rw [run_bind_of_error ran]
    rwa [ran] at here
  · rw [run_bind_of_ok ran]
    rw [ran] at here
    exact goesOn value here later

theorem send (statement : Statement) : Impartial (fun _ => True) (send statement) := by
  refine (value statement.bind_impartial).bind fun args _ => ?_
  have heard : Impartial (fun _ => True) hear := by
    intro session
    obtain ⟨_, heard, _⟩ := hear_run session
    rw [heard]
    exact session.hearing_impartial.trivially
  exact fun session => heard (session.sent statement args)

theorem fetchRelated (preload : Preload) (keys : List Value) (locale : String)
    (dialect : Dialect) :
    Impartial (fun _ => True) (fetchRelated preload keys locale dialect) := by
  unfold Engine.fetchRelated
  split
  · exact value trivial
  · refine (value (preload.statement_impartial keys locale dialect)).bind fun statement _ => ?_
    have fetched : Impartial (fun _ => True) (fetchRows statement) :=
      (send statement).bind fun _ _ => pure trivial
    refine fetched.bind fun rows _ => ?_
    have decoded := DataAccess.Impartial.mapM_trivially
      (fun row : ResultRow => row.decodeFrom_impartial 0 .empty) rows
    exact (value decoded).bind fun _ _ => pure trivial

/-- Relations are attached to rows without changing what the rows show. -/
theorem loadRelations (preloads : List Preload) {origins : List ResultRow}
    {parents : List (Row schema)} (shows : List.Forall₂ ResultRow.Shows origins parents)
    (locale : String) (dialect : Dialect) :
    Impartial (List.Forall₂ ResultRow.Shows origins)
      (loadRelations preloads parents locale dialect) := by
  induction preloads generalizing parents with
  | nil => exact value shows
  | cons preload preloads ih =>
    refine Impartial.bind ?_ fun children shows => ih shows
    refine (fetchRelated preload _ locale dialect).bind fun related _ => ?_
    have each (shown : ResultRow) (parent : Row schema) (shows : shown.Shows parent) :
        DataAccess.Impartial shown.Shows
          (Entity.attach parent preload.relation (relatedTo related parent preload.localKey)) :=
      Row.attach_impartial shows _ _
    rw [liftM_mapM fun parent : Row schema =>
      Entity.attach parent preload.relation (relatedTo related parent preload.localKey)]
    exact value (DataAccess.Impartial.mapM each shows)

end Impartial

end Engine

/-- What a load answers: the rows of the reply that it hears, or an error that is no verdict. -/
theorem Repository.load_impartial (repository : Repository schema) {select : Statement}
    {args : List Argument} (bound : select.bind = .ok args) (preloads : List Preload)
    (locale : String) (session : Session) :
    Impartial (fun rows => ∃ reply, (session.sent select args).hearing = .ok reply ∧
        List.Forall₂ ResultRow.Shows reply.rows rows)
      ((repository.load select preloads locale).run.run session).1 := by
  obtain ⟨after, heard, _⟩ := Engine.hear_run (session.sent select args)
  have sent := Engine.send_run_of_bound bound session
  rw [heard] at sent
  have hearing := (session.sent select args).hearing_impartial
  unfold Repository.load Engine.load Engine.fetchRows
  rw [bind_assoc, run_bind, sent]
  cases heard : (session.sent select args).hearing with
  | error error =>
    rw [heard] at hearing
    exact hearing
  | ok reply =>
    have each (origin shown : ResultRow) (same : origin = shown) :
        Impartial origin.Shows (shown.toRow schema) := same ▸ origin.toRow_impartial
    have read := Impartial.mapM each (List.forall₂_refl reply.rows)
    have loads : Engine.Impartial (List.Forall₂ ResultRow.Shows reply.rows) (do
        let entities ← (reply.rows.mapM (·.toRow schema) : Except DataError (List (Row schema)))
        Engine.loadRelations preloads entities locale repository.settings.dialect) :=
      (Engine.Impartial.value read).bind fun entities shows =>
        .loadRelations preloads shows locale repository.settings.dialect
    exact (loads after).imp fun rows shows => ⟨reply, rfl, shows⟩

end DataAccess
