import DataAccess.Proofs.Plan.Parts
import DataAccess.Proofs.Repository.Transaction

/-! Calls in a dead context. Planning fails only with faults of the mapping, and what has been
planned is sent in exchanges, none of which begins in a context that is cancelled or past its
deadline. In such a context a call leaves its session as it is, and it reports the context unless
it fails before its first exchange or has nothing to ask for. -/
namespace DataAccess

namespace Context

/-- Whether a context lets nothing begin any more. -/
def IsDead (context : Context) (now : Nat) : Prop :=
  context.cancelled = true ∨ context.isExpired now = true

/-- What a dead context reports: that it is cancelled, also if its deadline has passed too. -/
def verdict (context : Context) : DataError :=
  if context.cancelled then .cancelled else .deadlineExceeded

/-- The timer of a deadline that has passed has gone off. -/
theorem isDue_of_isExpired {context : Context} {now : Nat}
    (expired : context.isExpired now = true) (timing : Timing) :
    context.isDue timing now = true := by
  unfold isExpired at expired
  unfold isDue alarm?
  split at expired
  next deadline given =>
    rw [given]
    exact decide_eq_true ((Nat.min_le_left _ _).trans (of_decide_eq_true expired))
  next => contradiction

theorem resume_of_isDead {context : Context} {clock : Clock} (dead : context.IsDead clock.now) :
    context.resume clock = .error context.verdict := by
  unfold resume verdict
  by_cases cancelled : context.cancelled = true
  · rw [if_pos cancelled, if_pos cancelled]
  · rw [if_neg cancelled, if_neg cancelled,
      if_pos (isDue_of_isExpired (dead.resolve_left cancelled) clock.timing)]

theorem verdict_ne_configuration (context : Context) (fault : ConfigurationFault) :
    context.verdict ≠ .configuration fault := by
  unfold verdict
  split
  · exact nofun
  · exact nofun

end Context

/-- Whether a result fails with nothing but faults of the mapping. -/
def Mapped {α : Type} (result : Except DataError α) : Prop :=
  ∀ error, result = .error error → error.isMapping = true

namespace Mapped

variable {α β : Type}

theorem ok (value : α) : Mapped (.ok value) := nofun

theorem error {error : DataError} (mapping : error.isMapping = true) :
    Mapped (.error error : Except DataError α) := by
  rintro _ ⟨⟩
  exact mapping

theorem bind {result : Except DataError α} {next : α → Except DataError β}
    (first : Mapped result) (second : ∀ value, Mapped (next value)) : Mapped (result >>= next) := by
  intro error failed
  rcases error_of_bind failed with failed | ⟨value, _, failed⟩
  · exact first error failed
  · exact second value error failed

theorem foldlM {items : List β} {next : α → β → Except DataError α}
    (each : ∀ value item, Mapped (next value item)) (start : α) :
    Mapped (items.foldlM next start) := by
  induction items generalizing start with
  | nil => exact .ok start
  | cons item rest ih =>
    rw [List.foldlM_cons]
    exact (each start item).bind ih

end Mapped

section Planning

variable {schema : Schema}

theorem requireIdentifier_mapped (text : String) (kind : IdentifierKind) :
    Mapped (requireIdentifier text kind) := by
  unfold requireIdentifier checkIdentifier
  split
  · exact .ok ()
  · exact .error rfl

theorem requireColumns_mapped (columns : List String) : Mapped (requireColumns columns) := by
  induction columns with
  | nil => exact .ok ()
  | cons column rest ih => exact (requireIdentifier_mapped column .column).bind fun _ => ih

theorem Schema.identityColumn_mapped : Mapped schema.identityColumn := by
  unfold identityColumn
  split
  · split
    · exact .ok _
    · exact .error rfl
  · exact .error rfl

theorem Schema.idCondition_mapped (id : schema.idType.Carrier) : Mapped (schema.idCondition id) :=
  identityColumn_mapped.bind fun _ => .ok _

theorem Schema.idsCondition_mapped (ids : List schema.idType.Carrier) :
    Mapped (schema.idsCondition ids) :=
  identityColumn_mapped.bind fun _ => .ok _

theorem Row.writtenColumns_mapped (row : Row schema) : Mapped row.writtenColumns := by
  unfold writtenColumns
  split
  · exact .error rfl
  · exact (requireColumns_mapped _).bind fun _ => .ok _

namespace Planner

theorem make_mapped (spec : Spec) (settings : Settings) (unscoped : Bool) :
    Mapped (make schema spec settings unscoped) := by
  refine (requireIdentifier_mapped schema.table .table).bind fun _ => ?_
  dsimp only
  split
  · exact (requireIdentifier_mapped _ .column).bind fun _ => .ok _
  · exact .ok _

variable (planner : Planner schema)

theorem first_mapped (condition : Option Condition) (locale : String) :
    Mapped (planner.first condition locale) :=
  Schema.identityColumn_mapped.bind fun _ => .ok _

theorem byId_mapped (id : schema.idType.Carrier) (locale : String) :
    Mapped (planner.byId id locale) :=
  (Schema.idCondition_mapped id).bind fun condition => planner.first_mapped (some condition) locale

theorem byIds_mapped (ids : List schema.idType.Carrier) (locale : String) :
    Mapped (planner.byIds ids locale) :=
  Schema.identityColumn_mapped.bind fun _ => (Schema.idsCondition_mapped ids).bind fun _ => .ok _

theorem pluck_mapped (column : String) (condition : Option Condition) :
    Mapped (planner.pluck column condition) :=
  (requireIdentifier_mapped column .column).bind fun _ => .ok _

theorem update_mapped (condition : Option Condition) (changes : Changes) :
    Mapped (planner.update condition changes) := by
  unfold update
  split
  · exact .error rfl
  · exact (requireColumns_mapped _).bind fun _ => .ok _

theorem restore_mapped (condition : Option Condition) : Mapped (planner.restore condition) := by
  unfold restore
  split
  · exact .ok _
  · exact .error rfl

theorem idSource_mapped (columns : List String) (row : Row schema) :
    Mapped (planner.idSource columns row) := by
  refine Schema.identityColumn_mapped.bind fun id => ?_
  split
  · exact .ok _
  · split
    · exact .ok _
    · exact .ok _

theorem conflictQuery_mapped (row : Row schema) (conflict : List String) :
    Mapped (planner.conflictQuery row conflict) := by
  refine .foldlM (fun query column => ?_) _
  split
  · exact .ok _
  · exact .error rfl

theorem upsertIdSource_mapped (columns conflict : List String) (row : Row schema) :
    Mapped (planner.upsertIdSource columns conflict row) := by
  refine Schema.identityColumn_mapped.bind fun id => ?_
  split
  · exact planner.idSource_mapped columns row
  · split
    · exact .ok _
    · exact (planner.conflictQuery_mapped row conflict).bind fun _ => .ok _

theorem insert_mapped (row : Row schema) : Mapped (planner.insert row) :=
  row.writtenColumns_mapped.bind fun columns => (planner.idSource_mapped columns row).bind fun _ =>
    .ok _

theorem upsert_mapped (row : Row schema) (conflict update : List String) :
    Mapped (planner.upsert row conflict update) :=
  Schema.identityColumn_mapped.bind fun _ => row.writtenColumns_mapped.bind fun columns =>
    (requireColumns_mapped _).bind fun _ =>
      (planner.upsertIdSource_mapped columns _ row).bind fun _ => .ok _

theorem findOrCreate_mapped (condition : Option Condition) (row : Row schema) :
    Mapped (planner.findOrCreate condition row) :=
  row.writtenColumns_mapped.bind fun columns => (planner.idSource_mapped columns row).bind fun _ =>
    .ok _

end Planner

end Planning

namespace Engine

variable {α β : Type}

/-- A call fails before its first exchange: in every session of a locale scope, whatever its
context, its connection and its backend, with the same error, and the session stays as it is. -/
def FailsFirst (call : Engine α) (scope : LocaleScope) (error : DataError) : Prop :=
  ∀ session : Session, session.exchange.scope = scope →
    call.run.run session = (.error error, session)

/-- A call fails before its first exchange, and then with a fault of the mapping, or else it comes
to an exchange, which a dead context does not let begin. -/
def Admitted (call : Engine α) : Prop :=
  ∀ session : Session,
    (∃ error, error.isMapping = true ∧ FailsFirst call session.exchange.scope error) ∨
    ∀ error, session.exchange.context.resume session.clock = .error error →
      call.run.run session = (.error error, session)

namespace Admitted

theorem guarded (work : Engine α) : Admitted (guarded work) :=
  fun _ => .inr fun _ dead => guarded_run_of_dead dead work

/-- What comes behind the first exchange does not matter. -/
theorem bind {call : Engine α} (admitted : Admitted call) (next : α → Engine β) :
    Admitted (call >>= next) := by
  intro session
  rcases admitted session with ⟨error, mapping, fails⟩ | refused
  · exact .inl ⟨error, mapping, fun other same => run_bind_of_error (fails other same) next⟩
  · exact .inr fun error dead => run_bind_of_error (refused error dead) next

theorem map {call : Engine α} (admitted : Admitted call) (change : α → β) :
    Admitted (change <$> call) := by
  rw [map_eq_pure_bind]
  exact admitted.bind _

theorem plan {result : Except DataError α} {next : α → Engine β} (mapped : Mapped result)
    (admitted : ∀ value, Admitted (next value)) : Admitted ((liftM result : Engine α) >>= next) := by
  intro session
  cases result with
  | error error => exact .inl ⟨error, mapped error rfl, fun _ _ => rfl⟩
  | ok value => exact admitted value session

theorem locale (fallback : String) {next : String → Engine β}
    (admitted : ∀ locale, Admitted (next locale)) : Admitted (Engine.locale fallback >>= next) := by
  intro session
  rcases admitted (session.exchange.scope.currentOr fallback) session with
    ⟨error, mapping, fails⟩ | refused
  · refine .inl ⟨error, mapping, fun other same => ?_⟩
    rw [← fails other same, ← same]
    rfl
  · exact .inr refused

theorem transaction (work : TransactionHandle → Engine α) : Admitted (Engine.transaction work) :=
  (guarded _).bind _

end Admitted

end Engine

namespace Operation

variable {schema : Schema}

/-- What an operation answers that has nothing to ask the backend for. -/
def unasked? (repository : Repository schema) : Operation schema → Option (Outcome schema)
  | createMany [] => some (.ids [])
  | findByIds [] _ => some (.rows [])
  | deleteByIds [] => some (.count 0)
  | compile request options => some (.condition (repository.compile request options))
  | _ => none

end Operation

namespace Repository

open Engine

variable {schema : Schema} (repository : Repository schema)

theorem planner_mapped (options : ReadOptions) : Mapped (repository.planner options) :=
  Planner.make_mapped _ _ _

theorem admitted_findAll (condition : Option Condition) (request : ListingRequest)
    (options : ReadOptions) : Admitted (repository.findAll condition request options) :=
  .locale _ fun _ => .plan (repository.planner_mapped options) fun _ => .guarded _

theorem admitted_findPage (condition : Option Condition) (request : ListingRequest)
    (options : ReadOptions) : Admitted (repository.findPage condition request options) :=
  .locale _ fun _ => .plan (repository.planner_mapped options) fun _ => .guarded _

theorem admitted_list (condition : Option Condition) (request : ListingRequest)
    (options : ReadOptions) : Admitted (repository.list condition request options) := by
  unfold Repository.list
  dsimp only
  split
  · exact repository.admitted_findPage _ request options
  · exact (repository.admitted_findAll _ request options).bind _

theorem admitted_findOne (condition : Condition) (options : ReadOptions) :
    Admitted (repository.findOne condition options) :=
  .locale _ fun locale => .plan (repository.planner_mapped options) fun planner =>
    .plan (planner.first_mapped _ locale) fun _ => .guarded _

theorem admitted_findById (id : schema.idType.Carrier) (options : ReadOptions) :
    Admitted (repository.findById id options) :=
  .locale _ fun locale => .plan (repository.planner_mapped options) fun planner =>
    .plan (planner.byId_mapped id locale) fun _ => .guarded _

theorem admitted_findByIds {ids : List schema.idType.Carrier} (given : ids ≠ [])
    (options : ReadOptions) : Admitted (repository.findByIds ids options) := by
  unfold Repository.findByIds
  rw [if_neg (mt List.isEmpty_iff.1 given)]
  exact .locale _ fun locale => .plan (repository.planner_mapped options) fun planner =>
    .plan (planner.byIds_mapped ids locale) fun _ => .guarded _

theorem admitted_count (condition : Option Condition) : Admitted (repository.count condition) :=
  .plan (repository.planner_mapped .default) fun _ => .guarded _

theorem admitted_existsWhere (condition : Condition) :
    Admitted (repository.existsWhere condition) :=
  (repository.admitted_count (some condition)).bind _

theorem admitted_existsById (id : schema.idType.Carrier) : Admitted (repository.existsById id) :=
  .plan (repository.planner_mapped .default) fun _ => .plan (Schema.idCondition_mapped id) fun _ =>
    repository.admitted_existsWhere _

theorem admitted_pluck (column : String) (condition : Option Condition) :
    Admitted (repository.pluck column condition) :=
  .plan (repository.planner_mapped .default) fun planner =>
    .plan (planner.pluck_mapped column condition) fun _ => .guarded _

theorem admitted_create (row : Row schema) : Admitted (repository.create row) :=
  .plan (repository.planner_mapped .default) fun planner => .plan (planner.insert_mapped row)
    fun _ => (Admitted.guarded _).bind _

theorem admitted_upsert (row : Row schema) (conflict update : List String) :
    Admitted (repository.upsert row conflict update) :=
  .plan (repository.planner_mapped .default) fun planner =>
    .plan (planner.upsert_mapped row conflict update) fun _ => (Admitted.guarded _).bind _

theorem admitted_update (condition : Condition) (changes : Changes) :
    Admitted (repository.update condition changes) :=
  .plan (repository.planner_mapped .default) fun planner =>
    .plan (planner.update_mapped (some condition) changes) fun _ => .guarded _

theorem admitted_updateById (id : schema.idType.Carrier) (changes : Changes) :
    Admitted (repository.updateById id changes) :=
  .plan (repository.planner_mapped .default) fun planner =>
    .plan (Schema.idCondition_mapped id) fun condition =>
      .plan (planner.update_mapped (some condition) changes) fun _ =>
        .locale _ fun locale => .plan (planner.byId_mapped id locale) fun _ => .guarded _

theorem admitted_delete (condition : Condition) : Admitted (repository.delete condition) :=
  .plan (repository.planner_mapped .default) fun _ => .guarded _

theorem admitted_deleteById (id : schema.idType.Carrier) : Admitted (repository.deleteById id) :=
  .plan (repository.planner_mapped .default) fun _ => .plan (Schema.idCondition_mapped id) fun _ =>
    (Admitted.guarded _).bind _

theorem admitted_deleteByIds {ids : List schema.idType.Carrier} (given : ids ≠ []) :
    Admitted (repository.deleteByIds ids) := by
  unfold Repository.deleteByIds
  rw [if_neg (mt List.isEmpty_iff.1 given)]
  exact .plan (repository.planner_mapped .default) fun _ =>
    .plan (Schema.idsCondition_mapped ids) fun _ => .guarded _

theorem admitted_purge (condition : Condition) : Admitted (repository.purge condition) :=
  .plan (repository.planner_mapped .default) fun _ => .guarded _

theorem admitted_restore (condition : Condition) : Admitted (repository.restore condition) :=
  .plan (repository.planner_mapped .default) fun planner =>
    .plan (planner.restore_mapped (some condition)) fun _ => .guarded _

theorem admitted_restoreById (id : schema.idType.Carrier) : Admitted (repository.restoreById id) :=
  .plan (repository.planner_mapped .default) fun planner =>
    .plan (Schema.idCondition_mapped id) fun condition =>
      .plan (planner.restore_mapped (some condition)) fun _ => (Admitted.guarded _).bind _

/-- Work over a transaction is admitted over the pool too, where the `BEGIN` comes first. -/
theorem admitted_atomically {α : Type} {work : Repository schema → Engine α}
    (admitted : Admitted (work repository)) : Admitted (repository.atomically work) := by
  unfold atomically
  split
  · exact admitted
  · exact .transaction _

theorem admitted_createMany {rows : List (Row schema)} (given : rows ≠ []) :
    Admitted (repository.createMany rows) := by
  unfold Repository.createMany
  rw [if_neg (mt List.isEmpty_iff.1 given)]
  refine repository.admitted_atomically ?_
  cases rows with
  | nil => contradiction
  | cons row rest =>
    rw [List.mapM_cons]
    exact (repository.admitted_create row).bind _

theorem admitted_findOrCreate (condition : Condition) (row : Row schema) (options : ReadOptions) :
    Admitted (repository.findOrCreate condition row options) :=
  repository.admitted_atomically <| .locale _ fun _ =>
    .plan (repository.planner_mapped options) fun planner =>
      .plan (planner.findOrCreate_mapped (some condition) row) fun _ => .guarded _

/-- Every operation that asks the backend for something comes to an exchange, or fails before it. -/
theorem admitted_perform {operation : Operation schema}
    (asks : operation.unasked? repository = none) : Admitted (repository.perform operation) := by
  cases operation with
  | compile request options => contradiction
  | create row => exact (repository.admitted_create row).map _
  | createMany rows =>
    refine (repository.admitted_createMany ?_).map _
    rintro rfl
    contradiction
  | update condition changes => exact (repository.admitted_update condition changes).map _
  | updateById id changes => exact (repository.admitted_updateById id changes).map _
  | findAll condition request options =>
    exact (repository.admitted_findAll condition request options).map _
  | findPage condition request options =>
    exact (repository.admitted_findPage condition request options).map _
  | findOne condition options => exact (repository.admitted_findOne condition options).map _
  | findById id options => exact (repository.admitted_findById id options).map _
  | findByIds ids options =>
    refine (repository.admitted_findByIds ?_ options).map _
    rintro rfl
    contradiction
  | delete condition => exact (repository.admitted_delete condition).map _
  | deleteById id => exact (repository.admitted_deleteById id).map _
  | deleteByIds ids =>
    refine (repository.admitted_deleteByIds ?_).map _
    rintro rfl
    contradiction
  | purge condition => exact (repository.admitted_purge condition).map _
  | count condition => exact (repository.admitted_count condition).map _
  | existsWhere condition => exact (repository.admitted_existsWhere condition).map _
  | existsById id => exact (repository.admitted_existsById id).map _
  | pluck column condition => exact (repository.admitted_pluck column condition).map _
  | upsert row conflict update =>
    exact (repository.admitted_upsert row conflict update).map _
  | findOrCreate condition row options =>
    exact (repository.admitted_findOrCreate condition row options).map _
  | restore condition => exact (repository.admitted_restore condition).map _
  | restoreById id => exact (repository.admitted_restoreById id).map _
  | createAndRead row => exact ((repository.admitted_create row).bind _).map _
  | upsertAndRead row conflict update =>
    exact ((repository.admitted_upsert row conflict update).bind _).map _
  | list condition request options =>
    exact (repository.admitted_list condition request options).map _

/-- What an operation answers that is called in a dead context. -/
inductive AnswersDead (operation : Operation schema) (session : Session) :
    Except DataError (Outcome schema) → Prop
  /-- it has nothing to ask for -/
  | unasked (outcome : Outcome schema) (known : operation.unasked? repository = some outcome) :
    AnswersDead operation session (.ok outcome)
  /-- it cannot be planned, in this context or any other one -/
  | unplanned (fault : ConfigurationFault) (mapping : fault.isMapping = true)
    (fails : FailsFirst (repository.perform operation) session.exchange.scope
      (.configuration fault)) :
    AnswersDead operation session (.error (.configuration fault))
  /-- its first exchange does not begin -/
  | refused (asks : operation.unasked? repository = none)
    (planned : ∀ fault, ¬ FailsFirst (repository.perform operation) session.exchange.scope
      (.configuration fault)) :
    AnswersDead operation session (.error session.exchange.context.verdict)

theorem answersDead_of_perform {session : Session}
    (dead : session.exchange.context.IsDead session.clock.now) (operation : Operation schema) :
    ∃ answer, (repository.perform operation).run.run session = (answer, session) ∧
      repository.AnswersDead operation session answer := by
  cases asks : operation.unasked? repository with
  | some outcome =>
    refine ⟨.ok outcome, ?_, .unasked outcome asks⟩
    unfold Operation.unasked? at asks
    split at asks
    case h_5 => contradiction
    all_goals
      obtain rfl := Option.some.inj asks
      rfl
  | none =>
    rcases repository.admitted_perform asks session with ⟨error, mapping, fails⟩ | refused
    · cases error with
      | configuration fault =>
        exact ⟨_, fails session rfl, .unplanned fault mapping fails⟩
      | _ => contradiction
    · have ran := refused _ (Context.resume_of_isDead dead)
      refine ⟨_, ran, .refused asks fun fault fails => ?_⟩
      have same := Except.error.inj (congrArg Prod.fst (ran.symm.trans (fails session rfl)))
      exact session.exchange.context.verdict_ne_configuration fault same

/-- In a dead context nothing is sent and the session stays as it is, whatever is called: an
operation answers as it can without the backend, and no unit of work of a transaction is run. -/
theorem dead_context_reaches_nothing {session : Session}
    (dead : session.exchange.context.IsDead session.clock.now) :
    (∀ operation : Operation schema, ∃ answer,
      (repository.perform operation).run.run session = (answer, session) ∧
        repository.AnswersDead operation session answer) ∧
    (∀ {α : Type} (work : TransactionHandle → Engine α),
      (repository.transaction work).run.run session =
        (.error (if repository.inTransaction then .configuration .nestedTransaction
          else session.exchange.context.verdict), session)) ∧
    ∀ {α : Type} (work : TransactionHandle → Engine α),
      (Engine.transaction work).run.run session =
        (.error session.exchange.context.verdict, session) := by
  have unopened {α : Type} (work : TransactionHandle → Engine α) :
      (Engine.transaction work).run.run session =
        (.error session.exchange.context.verdict, session) :=
    run_bind_of_error (guarded_run_of_dead (Context.resume_of_isDead dead) _) _
  refine ⟨repository.answersDead_of_perform dead, fun work => ?_, unopened⟩
  by_cases bound : repository.inTransaction = true
  · rw [if_pos bound]
    refine run_bind_of_error ?_ _
    rw [repository.beginTransaction_of_bound bound]
    rfl
  · rw [if_neg bound, repository.transaction_of_unbound bound]
    exact unopened work

/-- A session whose call was cancelled and is past its deadline. -/
def lateCall : Session :=
  { afterInsertion with
    clock := { Clock.start with now := 20 }
    exchange := { afterInsertion.exchange with context := ⟨true, some 10⟩ } }

theorem dead_context_reaches_nothing_of_lateCall :
    lateCall.exchange.context.IsDead lateCall.clock.now ∧
    (∃ answer, (namedUsers.perform (.createMany [])).run.run lateCall = (answer, lateCall) ∧
      namedUsers.AnswersDead (.createMany []) lateCall answer) ∧
    (namedUsers.transaction creatingUser.run).run.run lateCall = (.error .cancelled, lateCall) := by
  have dead : lateCall.exchange.context.IsDead lateCall.clock.now := .inl rfl
  obtain ⟨operations, transactions, _⟩ := namedUsers.dead_context_reaches_nothing dead
  exact ⟨dead, operations _, transactions _⟩

end Repository

end DataAccess
