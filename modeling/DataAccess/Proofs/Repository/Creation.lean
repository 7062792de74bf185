import DataAccess.Proofs.Engine.Traffic
import DataAccess.Proofs.Repository.Transaction

/-! Finding or creating a row. A guarded insertion is sent, and its reply says how the row is read
again: by the caller's condition, and also by the identity of the row if it has been written. What
can happen on the way is said once; what a whole call sends and answers follows. -/
namespace DataAccess

open Engine

variable {schema : Schema}

/-- The condition by which a row is read again after a guarded insertion. -/
def Schema.lookup (schema : Schema) (condition : Condition) (source : IdSource) (reply : Reply) :
    Except DataError Condition :=
  if source.reports reply then do
    let id ← schema.readId (← source.identity reply)
    return condition.and (← schema.idCondition id)
  else return condition

/-- The answer of a call for the rows that it has read again. -/
def Schema.answer (schema : Schema) (created : Bool) (rows : List (Row schema)) :
    Except DataError (Row schema × Bool) :=
  match rows.head?, created with
  | some found, _ => return (found, created)
  | none, true => throw (.configuration (.conditionNotSatisfied schema.table))
  | none, false => throw (.notFound (.vanished schema.table))

/-- The rows that a select reads whose reply is awaited, before their relations are loaded. -/
def Session.rows (asked : Session) (schema : Schema) : Except DataError (List (Row schema)) := do
  let reply ← asked.hearing
  reply.rows.mapM (·.toRow schema)

/-- The session in which a call works on the connection of its transaction. -/
def Session.entered (opened : Session) : Session :=
  { opened with clock := opened.clock.renew.pass }

/-- A guarded insertion, with its planner and its arguments. -/
structure Insertion (schema : Schema) where
  planner : Planner schema
  write : Write
  args : List Argument

/-- A select that reads a row again, with its arguments, and whether the row has been written. -/
structure Rereading where
  created : Bool
  select : Statement
  args : List Argument

def Rereading.event (reading : Rereading) : Event :=
  .statement reading.select.sql reading.args

namespace Insertion

variable (insertion : Insertion schema)

def event : Event := .statement insertion.write.statement.sql insertion.args

/-- The session in which the reply to the insertion is awaited. -/
def asked (opened : Session) : Session :=
  opened.entered.sent insertion.write.statement insertion.args

/-- How the row is read again, unless the insertion fails or the identity of the written row cannot
be used. -/
def rereading (condition : Condition) (locale : String) (opened : Session) :
    Except DataError Rereading := do
  let reply ← (insertion.asked opened).hearing
  let lookup ← schema.lookup condition insertion.write.id reply
  let select ← insertion.planner.first (some lookup) locale
  return ⟨insertion.write.id.reports reply, select, ← select.bind⟩

end Insertion

namespace Repository

variable (repository : Repository schema) (condition : Condition) (row : Row schema)
  (options : ReadOptions)

/-- The guarded insertion of a call, unless it cannot be planned, its arguments cannot be bound, or
the context of the call is dead. -/
def insertion (opened : Session) : Except DataError (Insertion schema) := do
  let planner ← repository.planner options
  let write ← planner.findOrCreate (some condition) row
  opened.exchange.context.resume opened.clock
  return ⟨planner, write, ← write.statement.bind⟩

/-- The locale of a call that is made in a session. -/
def localeIn (session : Session) : String :=
  session.exchange.scope.currentOr repository.settings.fallbackLocale

/-- What follows a select, for the rows that it reads and those that are answered: nothing if there
are none, and else the statements that load their relations. -/
inductive Relates (preloads : List Preload) (locale : String) :
    Except DataError (List (Row schema)) → Except DataError (List (Row schema)) → List Event → Prop
  | unread (error : DataError) : Relates preloads locale (.error error) (.error error) []
  | read {parents : List (Row schema)} {loaded : Except DataError (List (Row schema))}
    {queries : List Event}
    (asked : Preload.AskedInOrder locale repository.settings.dialect parents preloads loaded.isOk
      queries) : Relates preloads locale (.ok parents) loaded queries

/-- What a call that finds or creates a row sends in its transaction, and what it answers: nothing
is sent if there is no insertion; nothing more if there is no select to read the row again; and else
the select and the statements that load the relations of the row. -/
inductive Course (opened : Session) : List Event → Except DataError (Row schema × Bool) → Prop
  | unsent {error : DataError}
    (failed : repository.insertion condition row options opened = .error error) :
    Course opened [] (.error error)
  | unread {insertion : Insertion schema} {error : DataError}
    (inserts : repository.insertion condition row options opened = .ok insertion)
    (failed : insertion.rereading condition (repository.localeIn opened) opened = .error error) :
    Course opened [insertion.event] (.error error)
  | reread {insertion : Insertion schema} {reading : Rereading} {heard after : Session}
    {loaded : Except DataError (List (Row schema))} {queries : List Event}
    (inserts : repository.insertion condition row options opened = .ok insertion)
    (reads : insertion.rereading condition (repository.localeIn opened) opened = .ok reading)
    (replies : heard.exchange.replies = opened.exchange.replies.drop 1)
    (loads : (repository.load reading.select ((repository.specFor options).preloadsFor false)
      (repository.localeIn opened)).run.run heard = (loaded, after))
    (related : repository.Relates ((repository.specFor options).preloadsFor false)
      (repository.localeIn opened) ((heard.sent reading.select reading.args).rows schema) loaded
      queries) :
    Course opened (insertion.event :: reading.event :: queries)
      (loaded >>= schema.answer reading.created)

end Repository

/-- What a call does once it has heard the reply to its insertion. -/
def Repository.readBack (repository : Repository schema) (condition : Condition)
    (options : ReadOptions) (planner : Planner schema) (source : IdSource) (locale : String)
    (reply : Reply) : Engine (Row schema × Bool) := do
  let lookup ← schema.lookup condition source reply
  let select ← planner.first (some lookup) locale
  let rows ← repository.load select ((repository.specFor options).preloadsFor false) locale
  schema.answer (source.reports reply) rows

theorem Planner.id_of_findOrCreate {planner : Planner schema} {condition : Option Condition}
    {row : Row schema} {write : Write} (planned : planner.findOrCreate condition row = .ok write)
    (statement : Statement) : write.id ≠ .lookup statement := by
  obtain ⟨_, _, planned⟩ := exists_of_bind planned
  obtain ⟨source, found, planned⟩ := exists_of_bind planned
  obtain rfl := Except.ok.inj planned
  exact planner.idSource_ne_lookup found statement

/-- What a select has passed that reads a row again: the reply to the insertion is heard, it says
how to look the row up, and the select is planned and its arguments are bound. -/
theorem Insertion.heard_of_rereading {insertion : Insertion schema} {condition : Condition}
    {locale : String} {opened : Session} {reading : Rereading}
    (reads : insertion.rereading condition locale opened = .ok reading) :
    ∃ reply lookup, (insertion.asked opened).hearing = .ok reply ∧
      reading.created = insertion.write.id.reports reply ∧
      schema.lookup condition insertion.write.id reply = .ok lookup ∧
      insertion.planner.first (some lookup) locale = .ok reading.select ∧
      reading.select.bind = .ok reading.args := by
  obtain ⟨reply, hearing, reads⟩ := exists_of_bind reads
  obtain ⟨lookup, looked, reads⟩ := exists_of_bind reads
  obtain ⟨select, planned, reads⟩ := exists_of_bind reads
  obtain ⟨args, bindable, reads⟩ := exists_of_bind reads
  obtain rfl := Except.ok.inj reads
  exact ⟨reply, lookup, hearing, rfl, looked, planned, bindable⟩

namespace Repository

variable {repository : Repository schema} {condition : Condition} {row : Row schema}
  {options : ReadOptions}

theorem findOrCreateIn_eq : repository.findOrCreateIn condition row options = (do
      let locale ← repository.locale
      let planner ← (repository.planner options : Except DataError (Planner schema))
      let write ← (planner.findOrCreate (some condition) row : Except DataError Write)
      repository.exchange do
        let reply ← Engine.send write.statement
        repository.readBack condition options planner write.id locale reply) := by
  unfold findOrCreateIn
  refine bind_congr fun locale => bind_congr fun planner => ?_
  cases planned : planner.findOrCreate (some condition) row with
  | error error => rfl
  | ok write =>
    -- only the continuation differs, in where it asks whether the row has been written
    change repository.exchange _ = repository.exchange _
    congr 1
    rw [writeIfAbsent_eq (Planner.id_of_findOrCreate planned), bind_assoc]
    refine bind_congr fun reply => ?_
    unfold readBack IdSource.written Schema.lookup
    cases reported : write.id.reports reply with
    | false =>
      rw [if_neg Bool.false_ne_true, if_neg Bool.false_ne_true]
      change (liftM (planner.first (some condition) locale) >>= _ : Engine _) =
        liftM (planner.first (some condition) locale) >>= _
      refine bind_congr fun select => bind_congr fun rows => ?_
      unfold Schema.answer
      cases rows.head? <;> rfl
    | true =>
      simp only [if_true, liftM_map, liftM_bind, liftM_pure, bind_map_left, bind_assoc, pure_bind]
      refine bind_congr fun carried => bind_congr fun id => bind_congr fun owned => ?_
      refine bind_congr fun select => bind_congr fun rows => ?_
      unfold Schema.answer
      cases rows.head? <;> rfl

/-- What a guarded insertion has passed: it is planned, the context is alive and its arguments are
bound. -/
theorem planned_of_insertion {opened : Session} {insertion : Insertion schema}
    (inserts : repository.insertion condition row options opened = .ok insertion) :
    repository.planner options = .ok insertion.planner ∧
      insertion.planner.findOrCreate (some condition) row = .ok insertion.write ∧
      opened.exchange.context.resume opened.clock = .ok () ∧
      insertion.write.statement.bind = .ok insertion.args := by
  obtain ⟨planner, made, inserts⟩ := exists_of_bind inserts
  obtain ⟨write, planned, inserts⟩ := exists_of_bind inserts
  obtain ⟨_, live, inserts⟩ := exists_of_bind inserts
  obtain ⟨args, bound, inserts⟩ := exists_of_bind inserts
  obtain rfl := Except.ok.inj inserts
  exact ⟨made, planned, live, bound⟩

theorem exchange_run_of_open {α : Type} {handle : TransactionHandle} {opened : Session}
    (bound : repository.binding = .transaction handle) (isOpen : handle ∈ opened.active)
    (live : opened.exchange.context.resume opened.clock = .ok ()) (work : Engine α) :
    (repository.exchange work).run.run opened = work.run.run opened.entered := by
  unfold Repository.exchange
  rw [guarded_run_of_live live, bound]
  have joined : (requireOpen handle).run.run { opened with clock := opened.clock.renew } =
      (.ok (), opened.entered) := requireOpen_run_of_open isOpen
  exact run_bind_of_ok joined _

/-- A call in an open transaction ends before it has sent anything, or it sends its insertion and
goes on with what it hears. -/
theorem findOrCreateIn_run {handle : TransactionHandle} {opened : Session}
    (bound : repository.binding = .transaction handle) (isOpen : handle ∈ opened.active) :
    (∃ error after, repository.insertion condition row options opened = .error error ∧
      (repository.findOrCreateIn condition row options).run.run opened = (.error error, after) ∧
      after.exchange = opened.exchange) ∨
    ∃ insertion, repository.insertion condition row options opened = .ok insertion ∧
      (repository.findOrCreateIn condition row options).run.run opened =
        (hear >>= repository.readBack condition options insertion.planner insertion.write.id
          (repository.localeIn opened)).run.run (insertion.asked opened) := by
  have located : repository.locale.run.run opened = (.ok (repository.localeIn opened), opened) :=
    rfl
  rw [findOrCreateIn_eq, run_bind_of_ok located, run_value_bind]
  cases inserted : repository.insertion condition row options opened with
  | error error =>
    refine .inl ⟨error, ?_⟩
    unfold insertion at inserted
    rcases error_of_bind inserted with failed | ⟨planner, made, inserted⟩
    · rw [failed]
      exact ⟨opened, rfl, rfl, rfl⟩
    rw [made]
    dsimp only
    rw [run_value_bind]
    rcases error_of_bind inserted with failed | ⟨write, planned, inserted⟩
    · rw [failed]
      exact ⟨opened, rfl, rfl, rfl⟩
    rw [planned]
    dsimp only
    rcases error_of_bind inserted with failed | ⟨_, live, inserted⟩
    · exact ⟨opened, rfl, guarded_run_of_dead failed _, rfl⟩
    rcases error_of_bind inserted with failed | ⟨args, bindable, inserted⟩
    · refine ⟨opened.entered, rfl, ?_, rfl⟩
      rw [exchange_run_of_open bound isOpen live]
      exact run_bind_of_error (send_run_of_unbound failed _) _
    · contradiction
  | ok insertion =>
    obtain ⟨made, planned, live, bindable⟩ := planned_of_insertion inserted
    refine .inr ⟨insertion, rfl, ?_⟩
    rw [made]
    dsimp only
    rw [run_value_bind, planned]
    dsimp only
    rw [exchange_run_of_open bound isOpen live, run_bind, send_run_of_bound bindable, run_bind]
    rfl

theorem load_run_of_unbound {select : Statement} {error : DataError}
    (failed : select.bind = .error error) (preloads : List Preload) (locale : String)
    (session : Session) :
    (repository.load select preloads locale).run.run session = (.error error, session) :=
  run_bind_of_error (run_bind_of_error (send_run_of_unbound failed session) _) _

/-- A load sends its select, and then what loads the relations of the rows that it reads, which keep
their keys. -/
theorem load_run_of_bound {select : Statement} {args : List Argument}
    (bound : select.bind = .ok args) (preloads : List Preload) (locale : String)
    (session : Session) :
    ∃ loaded after queries,
      (repository.load select preloads locale).run.run session = (loaded, after) ∧
      repository.Relates preloads locale ((session.sent select args).rows schema) loaded queries ∧
      (∀ parents children, (session.sent select args).rows schema = .ok parents →
        loaded = .ok children → Entity.SameKeys parents children) ∧
      after.exchange.log = session.exchange.log ++ .statement select.sql args :: queries := by
  obtain ⟨after, heard, logged, _⟩ := hear_run (session.sent select args)
  unfold Repository.load Engine.load fetchRows
  rw [bind_assoc, run_bind, send_run_of_bound bound, heard]
  cases hearing : (session.sent select args).hearing with
  | error error =>
    have unread : (session.sent select args).rows schema = .error error := by
      rw [Session.rows, hearing]
      rfl
    rw [unread]
    exact ⟨_, after, [], rfl, .unread error, nofun, logged⟩
  | ok reply =>
    have read : (session.sent select args).rows schema = reply.rows.mapM (·.toRow schema) := by
      rw [Session.rows, hearing]
      rfl
    rw [read]
    change ∃ loaded after' queries, (liftM (reply.rows.mapM (·.toRow schema)) >>= _ :
      Engine (List (Row schema))).run.run after = (loaded, after') ∧ _
    rw [run_value_bind]
    cases reply.rows.mapM (·.toRow schema) with
    | error error => exact ⟨_, after, [], rfl, .unread error, nofun, logged⟩
    | ok parents =>
      obtain ⟨queries, ⟨asked, same⟩, sent⟩ := Sends.loadRelations parents locale
        repository.settings.dialect preloads after
      refine ⟨_, _, queries, rfl, .read asked, ?_, sent.trans ?_⟩
      · intro parents' children given answered
        obtain rfl := Except.ok.inj given
        exact same children answered
      · rw [logged, Session.sent, List.append_assoc]
        rfl

/-- Once the reply to an insertion is heard or not, a call ends, or it reads the row again. -/
theorem readBack_run (insertion : Insertion schema) (locale : String) (opened : Session) :
    (∃ error after, insertion.rereading condition locale opened = .error error ∧
      (hear >>= repository.readBack condition options insertion.planner insertion.write.id
        locale).run.run (insertion.asked opened) = (.error error, after) ∧
      after.exchange.log = opened.exchange.log ++ [insertion.event]) ∨
    ∃ reading heard, insertion.rereading condition locale opened = .ok reading ∧
      reading.select.bind = .ok reading.args ∧
      heard.exchange.replies = opened.exchange.replies.drop 1 ∧
      heard.exchange.log = opened.exchange.log ++ [insertion.event] ∧
      (hear >>= repository.readBack condition options insertion.planner insertion.write.id
          locale).run.run (insertion.asked opened) =
        (do
          let rows ← repository.load reading.select
            ((repository.specFor options).preloadsFor false) locale
          liftM (schema.answer reading.created rows) : Engine (Row schema × Bool)).run.run
          heard := by
  obtain ⟨heard, ran, logged, replies⟩ := hear_run (insertion.asked opened)
  cases reads : insertion.rereading condition locale opened with
  | error error =>
    refine .inl ⟨error, heard, rfl, ?_, logged⟩
    rcases error_of_bind reads with failed | ⟨reply, hearing, reads⟩
    · rw [failed] at ran
      exact run_bind_of_error ran _
    rw [hearing] at ran
    rw [run_bind_of_ok ran, readBack, run_value_bind]
    rcases error_of_bind reads with failed | ⟨lookup, looked, reads⟩
    · rw [failed]
    rw [looked]
    dsimp only
    rw [run_value_bind]
    rcases error_of_bind reads with failed | ⟨select, planned, reads⟩
    · rw [failed]
    rw [planned]
    rcases error_of_bind reads with failed | ⟨args, bindable, reads⟩
    · exact run_bind_of_error (load_run_of_unbound failed _ _ heard) _
    · contradiction
  | ok reading =>
    obtain ⟨reply, lookup, hearing, created, looked, planned, bindable⟩ :=
      Insertion.heard_of_rereading reads
    rw [hearing] at ran
    refine .inr ⟨reading, heard, rfl, bindable, replies, logged, ?_⟩
    rw [run_bind_of_ok ran, readBack, run_value_bind, looked]
    dsimp only
    rw [run_value_bind, planned, created]

/-- What a call sends and answers in an open transaction is one of the courses. -/
theorem course_of_open (condition : Condition) (row : Row schema) (options : ReadOptions)
    {handle : TransactionHandle} {opened : Session}
    (bound : repository.binding = .transaction handle) (isOpen : handle ∈ opened.active) :
    ∃ statements result after, repository.Course condition row options opened statements result ∧
      (repository.findOrCreateIn condition row options).run.run opened = (result, after) ∧
      after.exchange.log = opened.exchange.log ++ statements := by
  obtain ⟨error, after, failed, ran, same⟩ | ⟨insertion, inserts, ran⟩ :=
    findOrCreateIn_run bound isOpen
  · refine ⟨[], _, after, .unsent failed, ran, ?_⟩
    rw [same, List.append_nil]
  rw [ran]
  obtain ⟨error, after, failed, ran, logged⟩ |
      ⟨reading, heard, reads, bindable, replies, logged, ran⟩ :=
    readBack_run insertion (repository.localeIn opened) opened
  · exact ⟨_, _, after, .unread inserts failed, ran, logged⟩
  rw [ran]
  obtain ⟨loaded, after, queries, loads, related, _, sent⟩ := load_run_of_bound bindable
    ((repository.specFor options).preloadsFor false) (repository.localeIn opened) heard
  rw [logged, List.append_assoc] at sent
  refine ⟨_, _, after, .reread inserts reads replies loads related, ?_, sent⟩
  rw [run_bind, loads]
  cases loaded <;> rfl

/-- Where there is a select to read the row again, it follows the insertion. -/
theorem Course.of_rereading {opened : Session} {statements : List Event}
    {result : Except DataError (Row schema × Bool)}
    (course : repository.Course condition row options opened statements result)
    {insertion : Insertion schema} {reading : Rereading}
    (inserts : repository.insertion condition row options opened = .ok insertion)
    (reads : insertion.rereading condition (repository.localeIn opened) opened = .ok reading) :
    ∃ heard after loaded queries, heard.exchange.replies = opened.exchange.replies.drop 1 ∧
      (repository.load reading.select ((repository.specFor options).preloadsFor false)
        (repository.localeIn opened)).run.run heard = (loaded, after) ∧
      statements = insertion.event :: reading.event :: queries ∧
      result = loaded >>= schema.answer reading.created := by
  cases course with
  | unsent failed => exact absurd (inserts.symm.trans failed) nofun
  | unread inserts' failed =>
    obtain rfl := Except.ok.inj (inserts.symm.trans inserts')
    exact absurd (reads.symm.trans failed) nofun
  | @reread _ _ heard after loaded queries inserts' reads' replies loads related =>
    obtain rfl := Except.ok.inj (inserts.symm.trans inserts')
    obtain rfl := Except.ok.inj (reads.symm.trans reads')
    exact ⟨heard, after, loaded, queries, replies, loads, rfl, rfl⟩

/-- The flag of an answer says whether the reply to the insertion reported a written row. -/
theorem Course.created {opened : Session} {statements : List Event}
    {result : Except DataError (Row schema × Bool)}
    (course : repository.Course condition row options opened statements result)
    {found : Row schema} {created : Bool} (answered : result = .ok (found, created)) :
    ∃ insertion reply, repository.insertion condition row options opened = .ok insertion ∧
      (insertion.asked opened).hearing = .ok reply ∧
      created = insertion.write.id.reports reply := by
  cases course with
  | unsent => contradiction
  | unread => contradiction
  | reread inserts reads replies loads related =>
    obtain ⟨reply, _, hearing, reported, _⟩ := Insertion.heard_of_rereading reads
    obtain ⟨rows, _, answered⟩ := exists_of_bind answered
    refine ⟨_, reply, inserts, hearing, ?_⟩
    rw [← reported]
    unfold Schema.answer at answered
    split at answered
    · exact (Prod.mk.inj (Except.ok.inj answered)).2.symm
    · contradiction
    · contradiction

/-- A call whose transaction could be opened sends its insertion before anything else, reads the row
again if it hears that it should, says whether the insertion wrote the row, and ends the transaction
as its result demands. -/
theorem findOrCreate_follows_course (unbound : repository.binding = .pool) (condition : Condition)
    (row : Row schema) (options : ReadOptions) {before opened : Session}
    {handle : TransactionHandle}
    (begun : Engine.beginTransaction.run.run before = (.ok handle, opened)) :
    ∃ statements result worked after,
      (repository.join handle).Course condition row options opened statements result ∧
      ((repository.join handle).findOrCreateIn condition row options).run.run opened =
        (result, worked) ∧
      (∀ found created, result = .ok (found, created) → ∃ insertion reply,
        (repository.join handle).insertion condition row options opened = .ok insertion ∧
        (insertion.asked opened).hearing = .ok reply ∧
        created = insertion.write.id.reports reply) ∧
      (repository.findOrCreate condition row options).run.run before =
        (before.exchange.failures.settle result, after) ∧
      after.exchange.log =
        before.exchange.log ++ .begin :: (statements ++ [closing result]) := by
  have advancing (handle : TransactionHandle) : Engine.Advancing (fun _ => True)
      ((repository.join handle).findOrCreateIn condition row options) :=
    (planned_findOrCreateIn (repository.join handle) condition row
      fun _ _ _ _ _ _ _ => trivial).advancing
  have whole : repository.findOrCreate condition row options = Engine.transaction fun handle =>
      (repository.join handle).findOrCreateIn condition row options := by
    unfold findOrCreate atomically
    rw [unbound]
  obtain ⟨error, after, refused, _⟩ |
      ⟨_, _, result, worked, after, opened', opens, ran, advanced, ends, answered⟩ :=
    Engine.transaction_run _ advancing before
  · rw [begun] at refused
    cases refused
  rw [begun] at opened'
  cases opened'
  have bound : (repository.join handle).binding = .transaction handle := rfl
  have isOpen : handle ∈ opened.active := opens.active ▸ List.mem_cons_self
  obtain ⟨statements, _, _, course, followed, logged⟩ :=
    course_of_open condition row options bound isOpen
  obtain ⟨rfl, rfl⟩ := Prod.mk.inj (ran.symm.trans followed)
  refine ⟨statements, result, worked, after, course, ran, fun _ _ => course.created, ?_,
    ends.log_of_opens opens logged⟩
  rw [whole, answered]

/-- A session whose backend reports an inserted row, and then finds it. -/
def afterCreation : Session :=
  { afterInsertion with
    exchange := { afterInsertion.exchange with
      replies := afterInsertion.exchange.replies ++
        [{ Reply.empty with rows := [[("id", .bigint 1), ("name", .text "ann")]] }] } }

/-- What is sent then: the guarded insertion, and the row is read again. -/
def creationEvents : List Event :=
  [.begin,
    .statement ("INSERT INTO users (name) SELECT ? WHERE NOT EXISTS " ++
      "(SELECT 1 FROM users WHERE name = ?) RETURNING id") [.text "ann", .text "ann"],
    .statement ("SELECT * FROM users WHERE name = ? AND users.id = ? " ++
      "ORDER BY users.id ASC LIMIT 1") [.text "ann", .int 1],
    .commit]

theorem findOrCreate_follows_course_of_ann :
    let condition := Condition.eq "name" (.text "ann")
    let row : Row namedSchema := ⟨(0 : Int64), [("name", .text "ann")], .empty⟩
    ∃ opened statements found worked after,
      Engine.beginTransaction.run.run afterCreation = (.ok ⟨0⟩, opened) ∧
      (namedUsers.join ⟨0⟩).Course condition row .default opened statements (.ok (found, true)) ∧
      ((namedUsers.join ⟨0⟩).findOrCreateIn condition row .default).run.run opened =
        (.ok (found, true), worked) ∧
      (namedUsers.findOrCreate condition row .default).run.run afterCreation =
        (.ok (found, true), after) ∧
      after.exchange.log = creationEvents := by
  intro condition row
  have unbound : namedUsers.binding = .pool := rfl
  have begun : Engine.beginTransaction.run.run afterCreation =
      (.ok ⟨0⟩, (Engine.beginTransaction.run.run afterCreation).2) := rfl
  obtain ⟨statements, result, worked, after, course, ran, _, answered, _⟩ :=
    findOrCreate_follows_course unbound condition row .default begun
  have whole :
      ((((namedUsers.findOrCreate condition row .default).run.run afterCreation).1.map Prod.snd),
        ((namedUsers.findOrCreate condition row .default).run.run afterCreation).2.exchange.log) =
      (.ok true, creationEvents) := by
    decide +kernel
  rw [answered] at whole
  obtain ⟨created, logged⟩ := Prod.mk.inj whole
  cases result with
  | error error => cases created
  | ok found =>
    obtain ⟨found, flag⟩ := found
    obtain rfl : flag = true := Except.ok.inj created
    exact ⟨_, statements, found, worked, after, rfl, course, ran, answered, logged⟩

end Repository

end DataAccess
