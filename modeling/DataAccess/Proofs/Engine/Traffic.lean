import DataAccess.Proofs.Engine.Failure
import DataAccess.Proofs.Engine.Keys

/-! What work sends. The statements that a guarded insertion and the loading of relations send are
described by what they ask for; the run of a longer call is put together from such descriptions. -/
namespace DataAccess

/-- The event of a statement whose arguments could be bound. -/
def Statement.IsEvent (statement : Statement) (event : Event) : Prop :=
  ∃ args, statement.bind = .ok args ∧ event = .statement statement.sql args

namespace Preload

variable {α : Type} [Entity α] (locale : String) (dialect : Dialect)

/-- An event asks for the rows of a preload that belong to parents. -/
def AskedBy (parents : List α) (preload : Preload) (event : Event) : Prop :=
  ∃ statement, preload.statement (Entity.keysOf parents preload.localKey) locale dialect =
    .ok statement ∧ statement.IsEvent event

/-- The events by which the relations of parents are loaded, and whether the loading has come to its
end: every preload that some parent has a key for is asked for once, in order, until one fails. -/
inductive AskedInOrder (parents : List α) : List Preload → Bool → List Event → Prop
  | done : AskedInOrder parents [] true []
  | stopped (preloads : List Preload) : AskedInOrder parents preloads false []
  | keyless {preload : Preload} {preloads : List Preload} {ended : Bool} {events : List Event}
    (none : preload.hasKeys parents = false) (rest : AskedInOrder parents preloads ended events) :
    AskedInOrder parents (preload :: preloads) ended events
  | asked {preload : Preload} {preloads : List Preload} {ended : Bool} {event : Event}
    {events : List Event} (keyed : preload.hasKeys parents = true)
    (asks : AskedBy locale dialect parents preload event)
    (rest : AskedInOrder parents preloads ended events) :
    AskedInOrder parents (preload :: preloads) ended (event :: events)

variable {locale dialect}

theorem AskedBy.of_sameKeys {parents children : List α} {preload : Preload}
    {event : Event} (same : Entity.SameKeys parents children)
    (asks : AskedBy locale dialect children preload event) :
    AskedBy locale dialect parents preload event := by
  unfold AskedBy at asks ⊢
  rwa [same.keysOf] at asks

theorem AskedInOrder.of_sameKeys {parents children : List α} {preloads : List Preload}
    {ended : Bool} {events : List Event} (same : Entity.SameKeys parents children)
    (asks : AskedInOrder locale dialect children preloads ended events) :
    AskedInOrder locale dialect parents preloads ended events := by
  induction asks with
  | done => exact .done
  | stopped preloads => exact .stopped preloads
  | keyless none _ ih => exact .keyless ((hasKeys_of_sameKeys same _).symm.trans none) ih
  | asked keyed asks _ ih =>
    exact .asked ((hasKeys_of_sameKeys same _).symm.trans keyed) (asks.of_sameKeys same) ih

end Preload

namespace IdSource

/-- Whether a reply to a guarded insertion reports that the row has been written. -/
def reports (source : IdSource) (reply : Reply) : Bool :=
  match source with
  | returning => !reply.rows.isEmpty
  | _ => reply.affected != 0

/-- The identity of a row that a reply reports to be written. -/
def identity (source : IdSource) (reply : Reply) : Except DataError IdValue :=
  match source with
  | known id => .ok id
  | returning => Engine.identityOf (reply.rows.headD [])
  | _ => Engine.lastInserted reply

def written (source : IdSource) (reply : Reply) : Except DataError (Option IdValue) :=
  if source.reports reply then some <$> source.identity reply else .ok none

end IdSource

namespace Engine

variable {α β : Type}

/-- Work that begins with a result that needs no backend. -/
theorem run_value_bind (result : Except DataError α) (next : α → Engine β) (session : Session) :
    ((liftM result : Engine α) >>= next).run.run session =
      match result with
      | .ok value => (next value).run.run session
      | .error error => (.error error, session) := by
  cases result <;> rfl

/-- A step that needs no backend, done to each of some items. -/
theorem liftM_mapM (next : α → Except DataError β) (items : List α) :
    (items.mapM fun item => (liftM (next item) : Engine β)) = liftM (items.mapM next) := by
  induction items with
  | nil => rfl
  | cons item rest ih =>
    rw [List.mapM_cons, List.mapM_cons, ih, liftM_bind]
    refine bind_congr fun value => ?_
    rw [liftM_bind]
    rfl

/-- Whatever session work is done in, what it sends belongs to its result. -/
def Sends (kind : Except DataError α → List Event → Prop) (work : Engine α) : Prop :=
  ∀ session, ∃ events, kind (work.run.run session).1 events ∧
    (work.run.run session).2.exchange.log = session.exchange.log ++ events

namespace Sends

variable {kind : Except DataError α → List Event → Prop}

theorem of_keeps {work : Engine α} (silent : Keeps Exchange.log work) :
    Sends (fun _ events => events = []) work :=
  fun session => ⟨[], rfl, by rw [silent session, List.append_nil]⟩

theorem value (result : Except DataError α) :
    Sends (fun given events => given = result ∧ events = []) (liftM result : Engine α) :=
  fun _ => ⟨[], ⟨rfl, rfl⟩, (List.append_nil _).symm⟩

theorem imp {weaker : Except DataError α → List Event → Prop} {work : Engine α}
    (sends : Sends kind work) (known : ∀ result events, kind result events → weaker result events) :
    Sends weaker work := by
  intro session
  obtain ⟨events, kindly, logged⟩ := sends session
  exact ⟨events, known _ events kindly, logged⟩

theorem bind {first : Except DataError α → List Event → Prop}
    {second : α → Except DataError β → List Event → Prop}
    {kind : Except DataError β → List Event → Prop} {work : Engine α} {next : α → Engine β}
    (sends : Sends first work) (goesOn : ∀ value, Sends (second value) (next value))
    (stops : ∀ error events, first (.error error) events → kind (.error error) events)
    (both : ∀ value result earlier later, first (.ok value) earlier → second value result later →
      kind result (earlier ++ later)) :
    Sends kind (work >>= next) := by
  intro session
  obtain ⟨earlier, known, logged⟩ := sends session
  rcases ran : work.run.run session with ⟨error | value, middle⟩
  · rw [ran] at known logged
    rw [run_bind_of_error ran]
    exact ⟨earlier, stops error earlier known, logged⟩
  · rw [ran] at known logged
    rw [run_bind_of_ok ran]
    obtain ⟨later, known', logged'⟩ := goesOn value middle
    refine ⟨earlier ++ later, both value _ earlier later known known', ?_⟩
    rw [logged', logged, List.append_assoc]

/-- Work that goes on without sending anything succeeds only if its beginning does. -/
theorem bind_silent {work : Engine α} {next : α → Engine β} (sends : Sends kind work)
    (silent : ∀ value, Keeps Exchange.log (next value)) :
    Sends (fun result events => ∃ begun, kind begun events ∧ (result.isOk → begun.isOk))
      (work >>= next) := by
  refine sends.bind (fun value => of_keeps (silent value)) ?_ ?_
  · intro error events known
    exact ⟨_, known, id⟩
  · rintro value result earlier _ known rfl
    rw [List.append_nil]
    exact ⟨_, known, fun _ => rfl⟩

theorem send_of_bound {statement : Statement} {args : List Argument}
    (bound : statement.bind = .ok args) :
    Sends (fun _ events => events = [.statement statement.sql args]) (send statement) := by
  intro session
  obtain ⟨after, heard, logged, _⟩ := hear_run (session.sent statement args)
  refine ⟨_, rfl, ?_⟩
  rw [send_run_of_bound bound, heard, logged]
  rfl

theorem send (statement : Statement) :
    Sends (fun reply events => (∃ event, statement.IsEvent event ∧ events = [event]) ∨
      ¬reply.isOk ∧ events = []) (Engine.send statement) := by
  cases bound : statement.bind with
  | error error =>
    intro session
    rw [send_run_of_unbound bound]
    exact ⟨[], .inr ⟨nofun, rfl⟩, (List.append_nil _).symm⟩
  | ok args =>
    refine (send_of_bound bound).imp fun reply events sent => .inl ⟨_, ⟨args, bound, rfl⟩, sent⟩

variable {ε : Type} [Entity ε] (preload : Preload) (parents : List ε) (locale : String)
  (dialect : Dialect)

/-- Related rows are asked for if some parent has a key, unless the asking fails. -/
theorem fetchRelated :
    Sends (fun result events =>
        (preload.hasKeys parents = true ∧
          ∃ event, preload.AskedBy locale dialect parents event ∧ events = [event]) ∨
        events = [] ∧ (result.isOk → preload.hasKeys parents = false))
      (Engine.fetchRelated preload (parentKeys parents preload.localKey) locale dialect) := by
  rw [parentKeys_eq, Engine.fetchRelated]
  split
  case isTrue keyless =>
    have none := Preload.keysOf_eq_nil_iff.1 (List.isEmpty_iff.1 keyless)
    exact (value _).imp fun _ _ sent => .inr ⟨sent.2, fun _ => none⟩
  case isFalse keys =>
    have keyed : preload.hasKeys parents = true := by
      rw [List.isEmpty_iff, Preload.keysOf_eq_nil_iff, Bool.not_eq_false] at keys
      exact keys
    have asks (statement : Statement) := ((Sends.send statement).bind_silent fun reply =>
      .value (.ok reply.rows)).bind_silent fun rows =>
        (Keeps.value (rows.mapM ResultRow.decode)).bind fun records =>
          .value (.ok (records.map Related.ofRecord))
    refine (value _).bind asks ?_ ?_
    · rintro error events ⟨_, rfl⟩
      exact .inr ⟨rfl, nofun⟩
    · rintro statement result _ events ⟨planned, rfl⟩ ⟨rows, ⟨reply, sent, heard⟩, read⟩
      rcases sent with ⟨event, sent, rfl⟩ | ⟨unsent, rfl⟩
      · exact .inl ⟨keyed, event, ⟨statement, planned.symm, sent⟩, rfl⟩
      · exact .inr ⟨rfl, fun answered => absurd (heard (read answered)) unsent⟩

/-- The relation of parents is asked for as its rows are, and the children have their keys. -/
theorem loadRelation [LawfulEntity ε] :
    Sends (fun result events =>
        ((preload.hasKeys parents = true ∧
          ∃ event, preload.AskedBy locale dialect parents event ∧ events = [event]) ∨
        events = [] ∧ (result.isOk → preload.hasKeys parents = false)) ∧
        ∀ children, result = .ok children → Entity.SameKeys parents children)
      (Engine.loadRelation preload parents locale dialect) := by
  have attaches (related : List Related) : Sends _ (parents.mapM fun parent =>
      (liftM (Entity.attach parent preload.relation
        (relatedTo related parent preload.localKey)) : Engine ε)) :=
    liftM_mapM (fun parent => Entity.attach parent preload.relation
      (relatedTo related parent preload.localKey)) parents ▸ value _
  refine (fetchRelated preload parents locale dialect).bind attaches ?_ ?_
  · intro error events asks
    exact ⟨asks, nofun⟩
  · rintro related result earlier _ asks ⟨attached, rfl⟩
    rw [List.append_nil]
    refine ⟨asks.imp_right fun unsent => ⟨unsent.1, fun _ => unsent.2 rfl⟩, ?_⟩
    intro children same
    exact Entity.sameKeys_of_attach (attached.symm.trans same)

theorem loadRelations [LawfulEntity ε] (preloads : List Preload) :
    Sends (fun result events =>
        Preload.AskedInOrder locale dialect parents preloads result.isOk events ∧
        ∀ children, result = .ok children → Entity.SameKeys parents children)
      (Engine.loadRelations preloads parents locale dialect) := by
  induction preloads generalizing parents with
  | nil =>
    refine (value (.ok parents)).imp ?_
    rintro _ _ ⟨rfl, rfl⟩
    refine ⟨.done, fun children same => ?_⟩
    obtain rfl := Except.ok.inj same
    exact List.forall₂_same.2 fun _ _ => rfl
  | cons preload preloads ih =>
    refine (loadRelation preload parents locale dialect).bind ih ?_ ?_
    · rintro error events ⟨⟨keyed, event, asks, rfl⟩ | ⟨rfl, _⟩, _⟩
      · exact ⟨.asked keyed asks (.stopped preloads), nofun⟩
      · exact ⟨.stopped _, nofun⟩
    · rintro children result earlier later ⟨asks, same⟩ ⟨rest, same'⟩
      have same := same children rfl
      refine ⟨?_, fun grown given => same.trans (same' grown given)⟩
      rcases asks with ⟨keyed, event, asks, rfl⟩ | ⟨rfl, keyless⟩
      · exact .asked keyed asks (rest.of_sameKeys same)
      · exact .keyless (keyless rfl) (rest.of_sameKeys same)

end Sends

/-- A guarded insertion is one statement, whose reply says whether it wrote the row and which
identity the row has. -/
theorem writeIfAbsent_eq {write : Write} (inserted : ∀ statement, write.id ≠ .lookup statement) :
    writeIfAbsent write = (do
      let reply ← send write.statement
      liftM (write.id.written reply) : Engine (Option IdValue)) := by
  obtain ⟨statement, source⟩ := write
  cases source with
  | lookup statement => exact absurd rfl (inserted statement)
  | returning =>
    simp only [writeIfAbsent, fetchFirst, fetchRows, bind_assoc, pure_bind]
    refine bind_congr fun reply => ?_
    cases rows : reply.rows with
    | nil =>
      simp only [IdSource.written, IdSource.reports, rows]
      rfl
    | cons row rest =>
      simp [IdSource.written, IdSource.reports, IdSource.identity, rows]
  | known id =>
    refine bind_congr fun reply => ?_
    unfold IdSource.written
    by_cases none : reply.affected = 0
    · rw [if_pos none, if_neg (by simp [IdSource.reports, none])]
      rfl
    · rw [if_neg none, if_pos (by simp [IdSource.reports, none])]
      rfl
  | lastInsertId =>
    refine bind_congr fun reply => ?_
    unfold IdSource.written
    by_cases none : reply.affected = 0
    · rw [if_pos none, if_neg (by simp [IdSource.reports, none])]
      rfl
    · rw [if_neg none, if_pos (by simp [IdSource.reports, none]), liftM_map]
      exact (map_eq_pure_bind _ _).symm

end Engine
end DataAccess
