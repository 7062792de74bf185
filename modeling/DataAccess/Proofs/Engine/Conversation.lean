import DataAccess.Repository.Service

/-! What a call can do to its session. Every call of a repository is put together from a few parts:
results that need no backend, a look at the locale, and exchanges on the connection of a binding, in
which statements are sent. A fact about runs is proved for these parts once and then holds for every
call. Which faults of a mapping the parts may report is kept as a parameter. -/
namespace DataAccess

/-- Whether a fault is one of the mapping: it is found while a statement is planned. -/
def ConfigurationFault.isMapping : ConfigurationFault → Bool
  | query _ => true
  | noIdentity _ => true
  | identityNotAColumn _ _ => true
  | noSoftDelete _ => true
  | conflictNotWritten _ _ => true
  | _ => false

def DataError.isMapping : DataError → Bool
  | configuration fault => fault.isMapping
  | _ => false

theorem BackendFailure.toDataError_isMapping (failure : BackendFailure) :
    failure.toDataError.isMapping = false := by
  cases failure <;> rfl

theorem eq_error_of_map {α β : Type} {result : Except DataError α} {change : α → β}
    {error : DataError} (failed : result.map change = .error error) : result = .error error := by
  cases result with
  | error error' => exact congrArg Except.error (Except.error.inj failed)
  | ok value => contradiction

/-- Whether the faults of the mapping that a result may report are among the given ones. -/
def Within (faults : DataError → Prop) {α : Type} (result : Except DataError α) : Prop :=
  ∀ error, result = .error error → error.isMapping = true → faults error

namespace Within

variable {faults : DataError → Prop} {α β : Type}

theorem ok (value : α) : Within faults (.ok value) := by
  intro error failed
  cases failed

theorem error {error : DataError} (other : error.isMapping = false) :
    Within faults (.error error : Except DataError α) := by
  intro error' failed mapping
  cases failed
  rw [other] at mapping
  cases mapping

theorem bind {result : Except DataError α} {next : α → Except DataError β}
    (first : Within faults result) (second : ∀ value, Within faults (next value)) :
    Within faults (result >>= next) := by
  intro error failed
  cases result with
  | error error' =>
    cases failed
    exact first error rfl
  | ok value => exact second value error failed

theorem mapError (result : Except BackendFailure α) :
    Within faults (result.mapError BackendFailure.toDataError) := by
  cases result with
  | error failure => exact .error failure.toDataError_isMapping
  | ok value => exact .ok value

theorem mapM {items : List β} {next : β → Except DataError α}
    (each : ∀ item ∈ items, Within faults (next item)) : Within faults (items.mapM next) := by
  induction items with
  | nil => exact .ok []
  | cons item rest ih =>
    rw [List.mapM_cons]
    have tail := ih fun item' member => each item' (List.mem_cons_of_mem item member)
    exact (each item List.mem_cons_self).bind fun _ => tail.bind fun _ => .ok _

end Within

section Results

variable {faults : DataError → Prop}

theorem ResultRow.decodeAt_within (row : ResultRow) (index : Nat) :
    Within faults (row.decodeAt index) := by
  unfold ResultRow.decodeAt
  split
  · exact .mapError _
  · exact .error (BackendFailure.toDataError_isMapping _)

theorem ResultRow.decodeFrom_within (row : ResultRow) (index : Nat) (record : Record) :
    Within faults (row.decodeFrom index record) := by
  induction row generalizing index record with
  | nil => exact .ok _
  | cons entry rest ih =>
    unfold ResultRow.decodeFrom
    split
    · exact ih _ _
    · exact .error (BackendFailure.toDataError_isMapping _)

theorem ResultRow.toRow_within (row : ResultRow) (schema : Schema) :
    Within faults (row.toRow schema) :=
  .mapError _

theorem Row.attach_within {schema : Schema} (row : Row schema) (relation : String)
    (records : List Record) : Within faults (row.attach relation records) := by
  unfold Row.attach
  split
  · exact .error rfl
  · split
    · exact .ok _
    · exact .error rfl

theorem Schema.readId_within (schema : Schema) (carried : IdValue) :
    Within faults (schema.readId carried) := by
  unfold Schema.readId
  split
  · exact .ok _
  · exact .error rfl

theorem Engine.identityOf_within (row : ResultRow) : Within faults (Engine.identityOf row) := by
  refine (row.decodeAt_within 0).bind fun value => ?_
  unfold IdValue.ofValue
  split
  · exact .ok _
  · exact .error rfl

theorem Engine.countOf_within (value : Value) : Within faults (Engine.countOf value) := by
  unfold Engine.countOf
  split
  · exact .ok _
  · exact .ok _
  · exact .error rfl

theorem Engine.lastInserted_within (reply : Reply) :
    Within faults (Engine.lastInserted reply) := by
  unfold Engine.lastInserted
  split
  · exact .ok _
  · exact .error rfl

theorem Argument.ofValue_within (value : Value) : Within faults (Argument.ofValue value) := by
  cases value with
  | null => exact .ok _
  | bool b => exact .ok _
  | int n => exact .ok _
  | uint n =>
    by_cases fits : n.toNat < powerOfTwo 63
    · rw [Argument.ofValue, if_pos fits]
      exact .ok _
    · rw [Argument.ofValue, if_neg fits]
      exact .error rfl
  | float x => exact .ok _
  | text s => exact .ok _
  | json j => exact .ok _
  | list values => exact .error rfl

theorem Statement.bind_within (statement : Statement) : Within faults statement.bind :=
  .mapM fun value _ => Argument.ofValue_within value

end Results

namespace Engine

/-- The work that can be done on a connection: it computes, and it sends statements. -/
inductive Conversation (faults : DataError → Prop) : {α : Type} → Engine α → Prop
  | value {α : Type} {result : Except DataError α} (known : Within faults result) :
    Conversation faults (liftM result : Engine α)
  | send (statement : Statement) : Conversation faults (send statement)
  | bind {α β : Type} {work : Engine α} {next : α → Engine β} (first : Conversation faults work)
    (second : ∀ value, Conversation faults (next value)) : Conversation faults (work >>= next)

/-- A call over a binding: it computes, it looks at the locale, and it does work on connections. -/
inductive Exchanges (faults : DataError → Prop) (binding : Binding) :
    {α : Type} → Engine α → Prop
  | value {α : Type} {result : Except DataError α} (known : Within faults result) :
    Exchanges faults binding (liftM result : Engine α)
  | locale (fallback : String) : Exchanges faults binding (Engine.locale fallback)
  | exchange {α : Type} {work : Engine α} (conversation : Conversation faults work) :
    Exchanges faults binding (guarded (connected binding work))
  | bind {α β : Type} {work : Engine α} {next : α → Engine β}
    (first : Exchanges faults binding work)
    (second : ∀ value, Exchanges faults binding (next value)) :
    Exchanges faults binding (work >>= next)

/-- A call that plans before it exchanges anything: what it does before its first exchange may fail
for any reason. A call over the pool may do so in a transaction of its own. -/
inductive Planned (faults : DataError → Prop) : Binding → {α : Type} → Engine α → Prop
  | exchanges {binding : Binding} {α : Type} {call : Engine α}
    (exchanges : Exchanges faults binding call) : Planned faults binding call
  | plan {binding : Binding} {α β : Type} (result : Except DataError α) {next : α → Engine β}
    (planned : ∀ value, result = .ok value → Planned faults binding (next value)) :
    Planned faults binding (liftM result >>= next)
  | locale {binding : Binding} {β : Type} (fallback : String) {next : String → Engine β}
    (planned : ∀ locale, Planned faults binding (next locale)) :
    Planned faults binding (Engine.locale fallback >>= next)
  | bind {binding : Binding} {α β : Type} {call : Engine α} {next : α → Engine β}
    (first : Planned faults binding call)
    (second : ∀ value, Exchanges faults binding (next value)) :
    Planned faults binding (call >>= next)
  | transaction {α : Type} {unit : TransactionHandle → Engine α}
    (planned : ∀ handle, Planned faults (.transaction handle) (unit handle)) :
    Planned faults .pool (Engine.transaction unit)

namespace Conversation

variable {faults : DataError → Prop} {α β : Type}

theorem ok (value : α) : Conversation faults (Pure.pure value) := .value (.ok value)

theorem error {error : DataError} (other : error.isMapping = false) :
    Conversation faults (throw error : Engine α) :=
  .value (.error other)

theorem mapM {γ : Type} {next : γ → Engine α} (each : ∀ item, Conversation faults (next item))
    (items : List γ) : Conversation faults (items.mapM next) := by
  induction items with
  | nil => exact .ok []
  | cons item rest ih =>
    rw [List.mapM_cons]
    exact (each item).bind fun _ => ih.bind fun _ => .ok _

theorem fetchRows (statement : Statement) : Conversation faults (Engine.fetchRows statement) :=
  (send statement).bind fun reply => .ok reply.rows

theorem fetchFirst (statement : Statement) : Conversation faults (Engine.fetchFirst statement) :=
  (fetchRows statement).bind fun rows => .ok rows.head?

theorem execute (statement : Statement) : Conversation faults (Engine.execute statement) :=
  (send statement).bind fun reply => .ok reply.affected

theorem fetchCount (statement : Statement) :
    Conversation faults (Engine.fetchCount statement) := by
  refine (fetchFirst statement).bind fun found => ?_
  cases found with
  | none => exact .error rfl
  | some row =>
    exact .bind (.value (row.decodeAt_within 0)) fun value => .value (countOf_within value)

theorem lookUp (statement : Statement) : Conversation faults (Engine.lookUp statement) := by
  refine (fetchFirst statement).bind fun found => ?_
  cases found with
  | none => exact .error rfl
  | some row => exact .value (identityOf_within row)

theorem writeRow (write : Write) : Conversation faults (Engine.writeRow write) := by
  unfold Engine.writeRow
  split
  case h_1 id _ => exact (send write.statement).bind fun _ => .ok id
  case h_2 =>
    refine (fetchFirst write.statement).bind fun found => ?_
    cases found with
    | none => exact .error rfl
    | some row => exact .value (identityOf_within row)
  case h_3 => exact (send write.statement).bind fun reply => .value (lastInserted_within reply)
  case h_4 statement _ => exact (send write.statement).bind fun _ => lookUp statement

theorem writeIfAbsent (write : Write) : Conversation faults (Engine.writeIfAbsent write) := by
  unfold Engine.writeIfAbsent
  split
  · refine (fetchFirst write.statement).bind fun found => ?_
    cases found with
    | none => exact .ok none
    | some row => exact (value (identityOf_within row)).bind fun id => .ok (some id)
  · refine (send write.statement).bind fun reply => ?_
    split
    · exact .ok none
    · split
      · exact .ok _
      · exact (lookUp _).bind fun id => .ok (some id)
      · exact (value (lastInserted_within reply)).bind fun id => .ok (some id)


end Conversation

theorem Planned.map {faults : DataError → Prop} {binding : Binding} {α β : Type}
    {call : Engine α} (planned : Planned faults binding call) (change : α → β) :
    Planned faults binding (change <$> call) := by
  rw [map_eq_pure_bind]
  exact planned.bind fun value => .value (.ok (change value))

end Engine

end DataAccess
