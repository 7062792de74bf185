import DataAccess.Proofs.Repository.Guard

/-! Runs that succeed. A run that gives a result has gone through each of its parts, has got the
reply to each of its statements, and has sent nothing else. What a call did is read off its result by
taking the run apart with these lemmas. -/
namespace DataAccess

/-- A statement has been sent in a session, and its reply has come. -/
structure Statement.Answered (statement : Statement) (before after : Session) : Prop where
  replies : after.exchange.replies = before.exchange.replies.drop 1
  sent : ∃ event, statement.IsEvent event ∧ after.exchange.log = before.exchange.log ++ [event]

theorem Statement.Answered.next {statement : Statement} {before after : Session}
    (answered : statement.Answered before after) : after.reply = before.secondReply := by
  rw [Session.reply, answered.replies]
  rfl

theorem Contents.Answers.rows_eq_nil_iff {σ τ : Type} [Lattice τ] [BoundedOrder τ]
    {contents : Contents σ τ} {query : Query} {stored : List σ} {reply : Reply}
    (answers : contents.Answers query stored reply) :
    reply.rows = [] ↔ ∀ row ∈ stored, ¬query.Keeps (contents.truth row) := by
  constructor
  · intro empty row listed keeps
    exact answers.finds ⟨row, listed, keeps⟩ empty
  · intro unseen
    refine List.eq_nil_iff_forall_not_mem.2 fun shown member => ?_
    obtain ⟨row, listed, keeps, _⟩ := answers.shows shown member
    exact unseen row listed keeps

/-- The first row that has been read shows one of the rows that the query keeps, if there is any. -/
theorem Contents.Answers.exists_head {σ τ : Type} [Lattice τ] [BoundedOrder τ]
    {contents : Contents σ τ} {query : Query} {stored : List σ} {reply : Reply}
    (answers : contents.Answers query stored reply) {schema : Schema} {rows : List (Row schema)}
    (shows : List.Forall₂ ResultRow.Shows reply.rows rows)
    (kept : ∃ row ∈ stored, query.Keeps (contents.truth row)) :
    ∃ found, rows.head? = some found ∧ ∃ row ∈ stored,
      query.Keeps (contents.truth row) ∧ (contents.shown row).Shows found := by
  have finds := answers.finds kept
  have sound := answers.shows
  generalize reply.rows = replied at shows finds sound
  cases shows with
  | nil => contradiction
  | cons shows =>
    obtain ⟨row, listed, keeps, rfl⟩ := sound _ List.mem_cons_self
    exact ⟨_, rfl, row, listed, keeps, shows⟩

/-- What the identity of a written row has been learned from. -/
inductive IdSource.Learned (before : Session) : IdSource → IdValue → Prop
  | known (id : IdValue) : Learned before (.known id) id
  | returning {shown : ResultRow} {id : IdValue} (first : before.reply.rows.head? = some shown)
    (read : Engine.identityOf shown = .ok id) : Learned before .returning id
  | lastInsertId {id : Int64} (kept : before.reply.lastId = some id) :
    Learned before .lastInsertId (.int id)
  | lookup {statement : Statement} {shown : ResultRow} {id : IdValue}
    (first : before.secondReply.rows.head? = some shown)
    (read : Engine.identityOf shown = .ok id) : Learned before (.lookup statement) id

/-- A row has been written, and its identity has been learned. -/
structure Write.Done (write : Write) (before : Session) (id : IdValue) (after : Session) : Prop where
  learned : write.id.Learned before id
  sent : ∃ events, List.Forall₂ Statement.IsEvent write.statements events ∧
    after.exchange.log = before.exchange.log ++ events
  replies : after.exchange.replies = before.exchange.replies.drop write.statements.length

theorem Write.Done.of_exchange {write : Write} {id : IdValue} {entered before left after : Session}
    (done : write.Done entered id left) (enters : entered.exchange = before.exchange)
    (leaves : after.exchange = left.exchange) : write.Done before id after := by
  obtain ⟨learned, ⟨events, areEvents, logged⟩, replies⟩ := done
  refine ⟨?_, ⟨events, areEvents, ?_⟩, ?_⟩
  · generalize write.id = source at learned ⊢
    cases learned with
    | known => exact .known id
    | returning first read =>
      rw [Session.reply, enters] at first
      exact .returning first read
    | lastInsertId kept =>
      rw [Session.reply, enters] at kept
      exact .lastInsertId kept
    | lookup first read =>
      rw [Session.secondReply, enters] at first
      exact .lookup first read
  · rw [leaves, logged, enters]
  · rw [leaves, replies, enters]

namespace Engine

variable {α β : Type}

theorem exists_of_run_value {result : Except DataError α} {next : α → Engine β} {value : β}
    {before after : Session}
    (ran : ((liftM result : Engine α) >>= next).run.run before = (.ok value, after)) :
    ∃ first, result = .ok first ∧ (next first).run.run before = (.ok value, after) := by
  rw [run_value_bind] at ran
  cases result with
  | error error => cases ran
  | ok first => exact ⟨first, rfl, ran⟩

theorem Keeps.of_run {γ : Type} {part : Exchange → γ} {work : Engine α}
    {result : Except DataError α} {before after : Session} (kept : Keeps part work)
    (ran : work.run.run before = (result, after)) : part after.exchange = part before.exchange := by
  have here := kept before
  rwa [ran] at here

theorem eq_of_run_pure {value given : α} {before after : Session}
    (ran : (Pure.pure given : Engine α).run.run before = (.ok value, after)) :
    given = value ∧ before = after := by
  obtain ⟨same, rfl⟩ := Prod.mk.inj ran
  exact ⟨Except.ok.inj same, rfl⟩

theorem answered_of_send {statement : Statement} {reply : Reply} {before after : Session}
    (ran : (send statement).run.run before = (.ok reply, after)) :
    before.reply = reply ∧ statement.Answered before after := by
  cases bound : statement.bind with
  | error error =>
    rw [send_run_of_unbound bound] at ran
    cases ran
  | ok args =>
    rw [send_run_of_bound bound] at ran
    obtain ⟨later, heard, logged, replies⟩ := hear_run (before.sent statement args)
    obtain ⟨hearing, rfl⟩ := Prod.mk.inj (heard.symm.trans ran)
    refine ⟨(Session.eq_reply_of_hearing hearing).symm, replies, ?_⟩
    exact ⟨.statement statement.sql args, ⟨args, bound, rfl⟩, logged⟩

theorem answered_of_fetchRows {statement : Statement} {rows : List ResultRow}
    {before after : Session} (ran : (fetchRows statement).run.run before = (.ok rows, after)) :
    before.reply.rows = rows ∧ statement.Answered before after := by
  obtain ⟨reply, heard, sending, ran⟩ := exists_of_run_bind ran
  obtain ⟨rfl, rfl⟩ := eq_of_run_pure ran
  obtain ⟨rfl, answered⟩ := answered_of_send sending
  exact ⟨rfl, answered⟩

theorem answered_of_fetchFirst {statement : Statement} {found : Option ResultRow}
    {before after : Session} (ran : (fetchFirst statement).run.run before = (.ok found, after)) :
    before.reply.rows.head? = found ∧ statement.Answered before after := by
  obtain ⟨rows, middle, fetched, ran⟩ := exists_of_run_bind ran
  obtain ⟨rfl, rfl⟩ := eq_of_run_pure ran
  obtain ⟨rfl, answered⟩ := answered_of_fetchRows fetched
  exact ⟨rfl, answered⟩

theorem done_of_writeRow {write : Write} {id : IdValue} {before after : Session}
    (ran : (writeRow write).run.run before = (.ok id, after)) : write.Done before id after := by
  obtain ⟨statement, source⟩ := write
  -- all sources but a look-up need the reply to one statement
  have done {heard : Session} (answered : statement.Answered before heard)
      (alone : Write.statements ⟨statement, source⟩ = [statement])
      (learned : source.Learned before id) : Write.Done ⟨statement, source⟩ before id heard := by
    obtain ⟨event, isEvent, logged⟩ := answered.sent
    refine ⟨learned, ⟨[event], ?_, logged⟩, ?_⟩
    · rw [alone]
      exact .cons isEvent .nil
    · rw [alone]
      exact answered.replies
  cases source with
  | known carried =>
    obtain ⟨reply, heard, sending, ran⟩ := exists_of_run_bind ran
    obtain ⟨rfl, rfl⟩ := eq_of_run_pure ran
    exact done (answered_of_send sending).2 rfl (.known carried)
  | returning =>
    obtain ⟨found, middle, fetched, ran⟩ := exists_of_run_bind ran
    obtain ⟨first, answered⟩ := answered_of_fetchFirst fetched
    cases found with
    | none => cases ran
    | some shown =>
      obtain ⟨read, rfl⟩ := Prod.mk.inj ran
      exact done answered rfl (.returning first read)
  | lastInsertId =>
    obtain ⟨reply, heard, sending, ran⟩ := exists_of_run_bind ran
    obtain ⟨rfl, answered⟩ := answered_of_send sending
    obtain ⟨read, rfl⟩ := Prod.mk.inj ran
    unfold lastInserted at read
    split at read
    case h_1 kept =>
      obtain rfl := Except.ok.inj read
      exact done answered rfl (.lastInsertId kept)
    case h_2 => cases read
  | lookup lookup =>
    obtain ⟨_, middle, sending, ran⟩ := exists_of_run_bind ran
    obtain ⟨found, heard, fetched, ran⟩ := exists_of_run_bind ran
    obtain ⟨_, written⟩ := answered_of_send sending
    obtain ⟨first, answered⟩ := answered_of_fetchFirst fetched
    rw [written.next] at first
    obtain ⟨event, isEvent, logged⟩ := written.sent
    obtain ⟨event', isEvent', logged'⟩ := answered.sent
    cases found with
    | none => cases ran
    | some shown =>
      obtain ⟨read, rfl⟩ := Prod.mk.inj ran
      refine ⟨.lookup first read, ⟨[event, event'], .cons isEvent (.cons isEvent' .nil), ?_⟩, ?_⟩
      · rw [logged', logged, List.append_assoc]
        rfl
      · rw [answered.replies, written.replies, List.drop_drop]
        rfl

/-- The connection is taken and let go without a trace in the exchange. -/
theorem exchanged_of_connected {binding : Binding} {work : Engine α} {value : α}
    {before after : Session}
    (ran : (guarded (connected binding work)).run.run before = (.ok value, after)) :
    ∃ entered left, entered.exchange = before.exchange ∧
      work.run.run entered = (.ok value, left) ∧ after.exchange = left.exchange := by
  have whole {β : Type} {work : Engine β} {result : Except DataError β} {before after : Session}
      (kept : Keeps (fun exchange => exchange) work) (ran : work.run.run before = (result, after)) :
      after.exchange = before.exchange := kept.of_run ran
  obtain ⟨_, checked, ran₁, ran⟩ := exists_of_run_bind ran
  obtain ⟨_, renewed, ran₂, ran⟩ := exists_of_run_bind ran
  have begins := (whole (.modifyClock _) ran₂).trans (whole .check ran₁)
  cases binding with
  | pool =>
    obtain ⟨_, entered, ran₃, ran⟩ := exists_of_run_bind ran
    refine ⟨entered, ?_⟩
    rcases worked : work.run.run entered with ⟨result, left⟩
    rw [run_bind_of_ok (outcome_run worked)] at ran
    obtain ⟨rfl, rfl⟩ := Prod.mk.inj ran
    exact ⟨left, (whole .acquire ran₃).trans begins, rfl, rfl⟩
  | transaction handle =>
    obtain ⟨_, entered, ran₃, ran⟩ := exists_of_run_bind ran
    exact ⟨entered, after, (whole (.requireOpen handle) ran₃).trans begins, ran, rfl⟩

end Engine

namespace Repository

open Engine

variable {schema : Schema} {repository : Repository schema}

theorem run_locale_bind {α : Type} (repository : Repository schema) (next : String → Engine α)
    (session : Session) : (repository.locale >>= next).run.run session =
      (next (repository.localeIn session)).run.run session := rfl

/-- What has been loaded: the statement has been sent, the rows show those of its reply, and their
relations have been asked for. -/
structure Loaded (repository : Repository schema) (select : Statement) (preloads : List Preload)
    (locale : String) (before : Session) (rows : List (Row schema)) (after : Session) : Prop where
  shows : List.Forall₂ ResultRow.Shows before.reply.rows rows
  sent : ∃ event queries, select.IsEvent event ∧
    Preload.AskedInOrder locale repository.settings.dialect rows preloads true queries ∧
    after.exchange.log = before.exchange.log ++ event :: queries

theorem loaded_of_load {select : Statement} {preloads : List Preload} {locale : String}
    {rows : List (Row schema)} {before after : Session}
    (ran : (repository.load select preloads locale).run.run before = (.ok rows, after)) :
    repository.Loaded select preloads locale before rows after := by
  cases bound : select.bind with
  | error error =>
    rw [load_run_of_unbound bound] at ran
    cases ran
  | ok args =>
    have impartial := repository.load_impartial bound preloads locale before
    rw [ran] at impartial
    obtain ⟨reply, hearing, shows⟩ := impartial
    obtain rfl := Session.eq_reply_of_hearing hearing
    obtain ⟨_, _, queries, ran', related, same, logged⟩ :=
      load_run_of_bound bound preloads locale before
    obtain ⟨rfl, rfl⟩ := Prod.mk.inj (ran.symm.trans ran')
    refine ⟨shows, _, queries, ⟨args, bound, rfl⟩, ?_, logged⟩
    cases fetched : (before.sent select args).rows schema with
    | error error =>
      rw [fetched] at related
      cases related
    | ok parents =>
      rw [fetched] at related
      cases related with
      | read asked => exact asked.of_sameKeys (same parents rows fetched rfl).symm

theorem Loaded.of_exchange {select : Statement} {preloads : List Preload} {locale : String}
    {rows : List (Row schema)} {entered before left after : Session}
    (loaded : repository.Loaded select preloads locale entered rows left)
    (enters : entered.exchange = before.exchange) (leaves : after.exchange = left.exchange) :
    repository.Loaded select preloads locale before rows after := by
  obtain ⟨shows, event, queries, isEvent, related, logged⟩ := loaded
  rw [Session.reply, enters] at shows
  refine ⟨shows, event, queries, isEvent, related, ?_⟩
  rw [leaves, logged, enters]

/-- A row that has been sought by its identity is the first that has been loaded. -/
theorem loaded_of_findById {planner : Planner schema} {id : schema.idType.Carrier}
    {found : Option (Row schema)} {before after : Session}
    (made : repository.planner .default = .ok planner)
    (ran : (repository.findById id .default).run.run before = (.ok found, after)) :
    ∃ select rows, planner.byId id (repository.localeIn before) = .ok select ∧
      repository.Loaded select (repository.spec.preloadsFor false) (repository.localeIn before)
        before rows after ∧
      rows.head? = found := by
  unfold findById at ran
  rw [repository.run_locale_bind] at ran
  obtain ⟨_, made', ran⟩ := exists_of_run_value ran
  obtain rfl := Except.ok.inj (made.symm.trans made')
  obtain ⟨select, reads, ran⟩ := exists_of_run_value ran
  obtain ⟨entered, left, enters, ran, leaves⟩ := exchanged_of_connected ran
  obtain ⟨rows, middle, loading, ran⟩ := exists_of_run_bind ran
  obtain ⟨rfl, rfl⟩ := eq_of_run_pure ran
  exact ⟨select, rows, reads, (loaded_of_load loading).of_exchange enters leaves, rfl⟩

theorem done_of_write {write : Write} {id : schema.idType.Carrier} {before after : Session}
    (ran : (repository.write write).run.run before = (.ok id, after)) :
    ∃ carried, write.Done before carried after ∧ schema.readId carried = .ok id := by
  unfold Repository.write at ran
  obtain ⟨carried, middle, writing, reading⟩ := exists_of_run_bind ran
  obtain ⟨read, rfl⟩ := Prod.mk.inj reading
  obtain ⟨entered, left, enters, wrote, leaves⟩ := exchanged_of_connected writing
  exact ⟨carried, (done_of_writeRow wrote).of_exchange enters leaves, read⟩

end Repository

end DataAccess
