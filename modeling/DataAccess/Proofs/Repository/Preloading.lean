import DataAccess.Proofs.Plan.Placeholders
import DataAccess.Proofs.Repository.Relations
import DataAccess.Proofs.Sql.Rendering

/-! One query for each relation. Loading relations sends one statement for every preload that some
parent has a key for, whatever the number of parents, and each parent takes its records once for
every preload. -/
namespace DataAccess

theorem itemSlots_eq_flatMap (items : List Value) :
    itemSlots items = items.flatMap Value.slots := by
  induction items with
  | nil => rfl
  | cons item rest ih => rw [itemSlots, ih, List.flatMap_cons]

/-- A list with items binds what they bind. -/
theorem scalars_list {items : List Value} (present : items ≠ []) :
    scalars [.list items] = scalars items := by
  cases items with
  | nil => contradiction
  | cons item rest => simp [scalars, Value.slots, itemSlots_eq_flatMap]

/-- What is done to each of some items agrees with what is done to what they stand for. -/
theorem Engine.map_mapM {α β γ δ : Type} {before : α → β} {after : γ → δ} {next : α → Engine γ}
    {next' : β → Engine δ} (same : ∀ item, after <$> next item = next' (before item))
    (items : List α) : List.map after <$> items.mapM next = (items.map before).mapM next' := by
  induction items with
  | nil => rfl
  | cons item rest ih =>
    rw [List.map_cons, List.mapM_cons, List.mapM_cons, ← same, ← ih]
    simp only [map_bind, bind_map_left, map_pure, List.map_cons]

variable {α : Type} [Entity α]

namespace Preload

/-- What is projected has balanced quotes and no question marks. -/
def IsPlain (preload : Preload) (locale : String) : Prop :=
  ∀ projection ∈ preload.projection, ∀ field ∈ projection locale, IsPlainText field.sql

/-- An event asks for the rows that belong to parents. Behind a plain projection it binds what their
keys hold: the keys themselves, if they are scalars. -/
def AsksFor (parents : List α) (locale : String) (dialect : Dialect) (preload : Preload)
    (event : Event) : Prop :=
  ∃ statement, preload.statement (Entity.keysOf parents preload.localKey) locale dialect =
      .ok statement ∧ statement.IsEvent event ∧
    (preload.IsPlain locale →
      statement.args = scalars (Entity.keysOf parents preload.localKey) ∧
      ((∀ key ∈ Entity.keysOf parents preload.localKey, key.isScalar) →
        statement.args = Entity.keysOf parents preload.localKey))

theorem args_statement {preload : Preload} {keys : List Value} {locale : String} {dialect : Dialect}
    {statement : Statement} (present : keys ≠ []) (plain : preload.IsPlain locale)
    (planned : preload.statement keys locale dialect = .ok statement) :
    statement.args = scalars keys := by
  obtain ⟨rfl, tableNamed, keyNamed, scopeNamed⟩ := Preload.statement_eq planned
  have takes : (preload.shape keys locale dialect).TakesArguments :=
    Preload.takesArguments_shape tableNamed keyNamed scopeNamed plain
  have bound := Shape.bindsInPlace takes dialect
  rw [bound.bound, bound.args, ← scalars_list present]
  cases marked : preload.scope? <;>
    simp [shape, marked, Shape.select, Restriction.ofScope, Restriction.args, Condition.inList,
      Value.toItems, Condition.leaves, Leaf.args]

theorem AskedBy.asksFor {parents : List α} {locale : String} {dialect : Dialect}
    {preload : Preload} {event : Event} (keyed : preload.hasKeys parents = true)
    (asked : AskedBy locale dialect parents preload event) :
    AsksFor parents locale dialect preload event := by
  obtain ⟨statement, planned, isEvent⟩ := asked
  have present : Entity.keysOf parents preload.localKey ≠ [] := by
    rw [ne_eq, keysOf_eq_nil_iff, keyed]
    exact Bool.noConfusion
  refine ⟨statement, planned, isEvent, fun plain => ?_⟩
  have binds := args_statement present plain planned
  refine ⟨binds, fun scalar => ?_⟩
  rw [binds, scalars_of_isScalar scalar]

/-- A loading that has come to its end has asked for all preloads that some parent has a key for. -/
theorem AskedInOrder.asksFor {parents : List α} {locale : String} {dialect : Dialect}
    {preloads : List Preload} {ended : Bool} {events : List Event}
    (asked : AskedInOrder locale dialect parents preloads ended events) (all : ended = true) :
    List.Forall₂ (AsksFor parents locale dialect) (preloads.filter (·.hasKeys parents)) events := by
  induction asked with
  | done => exact .nil
  | stopped preloads => contradiction
  | keyless none _ ih =>
    rw [List.filter_cons, none]
    exact ih all
  | asked keyed asks _ ih =>
    rw [List.filter_cons, keyed]
    exact .cons (asks.asksFor keyed) (ih all)

end Preload

namespace Engine

variable {locale : String} {dialect : Dialect} {preload : Preload} {preloads : List Preload}
  {parents children : List α} {before after : Session}

theorem asks_of_loadRelations [LawfulEntity α]
    (ran : (loadRelations preloads parents locale dialect).run.run before = (.ok children, after)) :
    ∃ events, after.exchange.log = before.exchange.log ++ events ∧
      List.Forall₂ (Preload.AsksFor parents locale dialect)
        (preloads.filter (·.hasKeys parents)) events := by
  obtain ⟨events, ⟨asked, _⟩, logged⟩ :=
    Sends.loadRelations parents locale dialect preloads before
  rw [ran] at asked logged
  exact ⟨events, logged, asked.asksFor rfl⟩

end Engine

/-- An entity with a list of the relations whose records it has taken. -/
structure Traced (α : Type) where
  entity : α
  taken : List String

namespace Traced

instance : Entity (Traced α) where
  read row := (Traced.mk · []) <$> Entity.read row
  keyValue? parent := Entity.keyValue? parent.entity
  attach parent relation records := do
    return ⟨← Entity.attach parent.entity relation records, parent.taken ++ [relation]⟩

variable {preload : Preload} {preloads : List Preload} {parents children : List (Traced α)}
  {locale : String} {dialect : Dialect} {before after : Session}

theorem entity_attach (parent : Traced α) (relation : String) (records : List Record) :
    Traced.entity <$> Entity.attach parent relation records =
      Entity.attach parent.entity relation records := by
  change Traced.entity <$> (Entity.attach parent.entity relation records >>= _) = _
  cases Entity.attach parent.entity relation records <;> rfl

theorem entity_loadRelation (preload : Preload) (parents : List (Traced α)) (locale : String)
    (dialect : Dialect) :
    List.map Traced.entity <$> Engine.loadRelation preload parents locale dialect =
      Engine.loadRelation preload (parents.map Traced.entity) locale dialect := by
  unfold Engine.loadRelation Engine.parentKeys
  rw [map_bind, List.filterMap_map]
  refine bind_congr fun related => Engine.map_mapM (fun parent => ?_) parents
  rw [← liftM_map, entity_attach]
  rfl

/-- The trace only watches: without it the loading is the same. -/
theorem entity_loadRelations (preloads : List Preload) (parents : List (Traced α))
    (locale : String) (dialect : Dialect) :
    List.map Traced.entity <$> Engine.loadRelations preloads parents locale dialect =
      Engine.loadRelations preloads (parents.map Traced.entity) locale dialect := by
  induction preloads generalizing parents with
  | nil => rfl
  | cons preload preloads ih =>
    unfold Engine.loadRelations at ih ⊢
    rw [List.foldlM_cons, List.foldlM_cons, map_bind, ← entity_loadRelation, bind_map_left]
    exact bind_congr ih

theorem taken_of_attach {relation : String} {records : Traced α → List Record}
    (attached : (parents.mapM fun parent => Entity.attach parent relation (records parent)) =
      .ok children) :
    children.map Traced.taken = parents.map fun parent => parent.taken ++ [relation] := by
  induction parents generalizing children with
  | nil =>
    obtain rfl := Except.ok.inj attached
    rfl
  | cons parent rest ih =>
    rw [List.mapM_cons] at attached
    obtain ⟨child, first, attached⟩ := exists_of_bind attached
    obtain ⟨later, others, attached⟩ := exists_of_bind attached
    obtain rfl := Except.ok.inj attached
    obtain ⟨_, _, taken⟩ := exists_of_bind first
    obtain rfl := Except.ok.inj taken
    rw [List.map_cons, List.map_cons, ih others]

theorem taken_of_loadRelation
    (ran : (Engine.loadRelation preload parents locale dialect).run.run before =
      (.ok children, after)) :
    children.map Traced.taken = parents.map fun parent => parent.taken ++ [preload.relation] := by
  obtain ⟨related, middle, _, ran⟩ := exists_of_run_bind ran
  rw [Engine.liftM_mapM fun parent : Traced α => Entity.attach parent preload.relation
    (Engine.relatedTo related parent preload.localKey)] at ran
  exact taken_of_attach (Prod.mk.inj ran).1

theorem taken_of_loadRelations
    (ran : (Engine.loadRelations preloads parents locale dialect).run.run before =
      (.ok children, after)) :
    children.map Traced.taken =
      parents.map fun parent => parent.taken ++ preloads.map Preload.relation := by
  induction preloads generalizing parents before with
  | nil =>
    obtain ⟨rfl, _⟩ := Engine.eq_of_run_pure ran
    simp
  | cons preload preloads ih =>
    obtain ⟨served, middle, first, ran⟩ := exists_of_run_bind ran
    have longer : served.map (fun parent => parent.taken ++ preloads.map Preload.relation) =
        (served.map Traced.taken).map (· ++ preloads.map Preload.relation) := by
      rw [List.map_map]
      rfl
    rw [ih ran, longer, taken_of_loadRelation first, List.map_map]
    simp

end Traced

namespace Engine

variable {locale : String} {dialect : Dialect} {preloads : List Preload}
  {parents children : List α} {before after : Session}

/-- A loading of relations that succeeds also does with a trace, and each parent has taken the
records of every preload once, in the order of the preloads. -/
theorem traced_of_loadRelations
    (ran : (loadRelations preloads parents locale dialect).run.run before = (.ok children, after)) :
    (loadRelations preloads (parents.map (Traced.mk · [])) locale dialect).run.run before =
      (.ok (children.map (Traced.mk · (preloads.map Preload.relation))), after) := by
  have untraced := Traced.entity_loadRelations preloads (parents.map (Traced.mk · [])) locale dialect
  rw [List.map_map] at untraced
  have parents' : parents.map (Traced.entity ∘ (Traced.mk · [])) = parents := List.map_id _
  rw [parents'] at untraced
  rw [← untraced, map_eq_pure_bind] at ran
  obtain ⟨traced, middle, tracing, ran⟩ := exists_of_run_bind ran
  obtain ⟨rfl, rfl⟩ := eq_of_run_pure ran
  have taken := Traced.taken_of_loadRelations tracing
  rw [List.map_map] at taken
  rw [tracing, List.map_map]
  have each : ∀ entry ∈ traced, entry.taken = preloads.map Preload.relation := by
    intro entry member
    have listed : entry.taken ∈ traced.map Traced.taken := List.mem_map_of_mem member
    rw [taken] at listed
    obtain ⟨_, _, same⟩ := List.mem_map.1 listed
    exact same.symm
  have same : traced.map ((Traced.mk · (preloads.map Preload.relation)) ∘ Traced.entity) = traced := by
    refine (List.map_congr_left fun entry member => ?_).trans (List.map_id _)
    rw [Function.comp_apply, ← each entry member]
    rfl
  rw [same]

/-- What the loading of relations sends, and what the parents take, whatever entities they are. -/
structure AsksOnce (preloads : List Preload) (parents children : List α) (locale : String)
    (dialect : Dialect) (before after : Session) : Prop where
  asks : ∃ events, after.exchange.log = before.exchange.log ++ events ∧
    List.Forall₂ (Preload.AsksFor parents locale dialect) (preloads.filter (·.hasKeys parents))
      events
  idle : parents = [] → after.exchange.log = before.exchange.log
  different : ∀ preload ∈ preloads, (Entity.keysOf parents preload.localKey).Pairwise
    fun first second => first.same second = false
  attaches :
    (loadRelations preloads (parents.map (Traced.mk · [])) locale dialect).run.run before =
      (.ok (children.map (Traced.mk · (preloads.map Preload.relation))), after)

theorem asksOnce_of_loadRelations [LawfulEntity α]
    (ran : (loadRelations preloads parents locale dialect).run.run before = (.ok children, after)) :
    AsksOnce preloads parents children locale dialect before after := by
  obtain ⟨events, logged, asked⟩ := asks_of_loadRelations ran
  constructor
  case asks => exact ⟨events, logged, asked⟩
  case idle =>
    rintro rfl
    have none : preloads.filter (·.hasKeys ([] : List α)) = [] := by
      simp [Preload.hasKeys]
    rw [none, List.forall₂_nil_left_iff] at asked
    rw [logged, asked, List.append_nil]
  case different => exact fun preload _ => Value.pairwise_firstOccurrences _
  case attaches => exact traced_of_loadRelations ran

variable {schema : Schema} {rows loaded : List (Row schema)}

/-- What the loading of relations sends and attaches to rows, which stay what they are. -/
structure LoadsOnce (preloads : List Preload) (parents children : List (Row schema))
    (locale : String) (dialect : Dialect) (before after : Session) : Prop
    extends AsksOnce preloads parents children locale dialect before after where
  keeps : List.Forall₂ (fun parent child : Row schema =>
    child.id = parent.id ∧ child.values = parent.values) parents children

/-- One statement is sent for each relation that some parent has a key for, in order. Behind a
projection with balanced quotes and no question marks it binds the keys that occur, each once. Each
parent takes the records of every relation once. -/
theorem one_query_per_relation
    (ran : (loadRelations preloads rows locale dialect).run.run before = (.ok loaded, after)) :
    LoadsOnce preloads rows loaded locale dialect before after := by
  refine ⟨asksOnce_of_loadRelations ran, ?_⟩
  obtain ⟨replies, _, rfl⟩ := received_of_loadRelations ran
  rw [List.forall₂_map_right_iff, List.forall₂_same]
  exact fun parent _ => parent.receiveAll_keeps _

/-- Two users with the same reference and one without. -/
def sharers : List (Row referringSchema) :=
  [referring 1 (.text "a"), referring 2 .null, referring 3 (.text "a")]

def sharedRun (preload : Preload) : Except DataError (List (Row referringSchema)) × Session :=
  (loadRelations [preload] sharers "en" .sqlite).run.run (noted "a")

theorem one_query_per_relation_of_shared_key :
    ∃ children after, sharedRun notes = (.ok children, after) ∧
      LoadsOnce [notes] sharers children "en" .sqlite (noted "a") after ∧
      after.exchange.log = [.statement
        "SELECT notes.*, user_ref AS sift_preload_key FROM notes WHERE user_ref IN (?)"
        [.text "a"]] := by
  have ended : (sharedRun notes).1.isOk ∧ (sharedRun notes).2.exchange.log = [.statement
      "SELECT notes.*, user_ref AS sift_preload_key FROM notes WHERE user_ref IN (?)"
      [.text "a"]] := by
    decide +kernel
  rcases ran : sharedRun notes with ⟨error | children, after⟩
  · rw [ran] at ended
    cases ended.1
  · rw [ran] at ended
    exact ⟨children, after, rfl, one_query_per_relation ran, ended.2⟩

/-- Notes with a projection that opens a quote and does not close it. -/
def openNotes : Preload := { notes with projection := some fun _ => [⟨"'", none⟩] }

/-- A projection without question marks keeps the key from being bound: the mark behind it is
between quotes. -/
theorem key_unbound_behind_open_quote :
    (∀ projection ∈ openNotes.projection, ∀ field ∈ projection "en",
      QuoteState.marks none field.sql.toList = 0) ∧
    openNotes.hasKeys sharers ∧ Entity.keysOf sharers openNotes.localKey = [.text "a"] ∧
    (sharedRun openNotes).1.isOk ∧ (sharedRun openNotes).2.exchange.log = [.statement
      "SELECT ', user_ref AS sift_preload_key FROM notes WHERE user_ref IN (?)" []] := by
  refine ⟨?_, by decide, rfl, ?_⟩
  · rintro _ ⟨⟩ field member
    obtain rfl := List.mem_singleton.1 member
    decide
  · decide +kernel

end Engine

end DataAccess
