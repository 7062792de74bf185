import DataAccess.Proofs.Repository.Success
import DataAccess.Proofs.Storage.Upsert

/-! Rows that are stored and read back. The write gives the identity of the row that it has stored, and
the row is read by that identity. But a write may store a row that bears a deletion marker, or merge
into one that does, and the select does not see that row. -/
namespace DataAccess

open Sql

/-- A call that stores a row. -/
inductive Storing (schema : Schema) where
  | create (row : Row schema)
  | upsert (row : Row schema) (conflict update : List String)

namespace Storing

variable {schema : Schema}

def row : Storing schema → Row schema
  | create row => row
  | upsert row _ _ => row

/-- The columns that decide whether the row conflicts with one that is stored. -/
def deciding : Storing schema → List String
  | create _ => []
  | upsert _ conflict _ => schema.conflictColumns conflict

def plan (planner : Planner schema) : Storing schema → Except DataError Write
  | create row => planner.insert row
  | upsert row conflict update => planner.upsert row conflict update

def store (repository : Repository schema) : Storing schema → Engine schema.idType.Carrier
  | create row => repository.create row
  | upsert row conflict update => repository.upsert row conflict update

def storeAndRead (repository : Repository schema) : Storing schema → Engine (Row schema)
  | create row => repository.createAndRead row
  | upsert row conflict update => repository.upsertAndRead row conflict update

variable {κ : Type} (catalog : Catalog schema κ)

/-- What a call makes of a table, for the tuple that its insertion writes: the tuple that it stores,
and the table afterwards. -/
inductive Makes [DecidableEq κ] (table : List (Tuple κ)) (incoming : Tuple κ) :
    Storing schema → Tuple κ → List (Tuple κ) → Prop
  | created {row : Row schema} : Makes table incoming (.create row) incoming (incoming :: table)
  | upserted {row : Row schema} {conflict update : List String} {stored : Tuple κ}
    {after : List (Tuple κ)}
    (stores : catalog.Stores (schema.conflictColumns conflict)
      (schema.upsertTargets (row.values.map Prod.fst) (schema.conflictColumns conflict) update)
      table incoming stored after) :
    Makes table incoming (.upsert row conflict update) stored after

/-- No null has been written into a column that decides. -/
def IsDecided (storing : Storing schema) (incoming : Tuple κ) : Prop :=
  ∀ name ∈ storing.deciding, ∀ column ∈ catalog.column? name, incoming column ≠ .null

/-- Whether a row of a reply gives the identity of a tuple. -/
def Names (shown : ResultRow) (tuple : Tuple κ) : Prop :=
  ∀ id, Engine.identityOf shown = .ok id → id.toValue.datum? = some (tuple catalog.key)

/-- What the replies to a write say of the identity of the stored tuple, by the source from which the
identity is learned. -/
inductive Reports (planner : Planner schema) (storing : Storing schema) (stored : Tuple κ)
    (after : List (Tuple κ)) (before : Session) : IdSource → Prop
  | known (id : IdValue) : Reports planner storing stored after before (.known id)
  | returning (returns : ∀ shown ∈ before.reply.rows.head?, Names catalog shown stored) :
    Reports planner storing stored after before .returning
  | lastInsertId (keeps : ∀ id ∈ before.reply.lastId, stored catalog.key = .int id) :
    Reports planner storing stored after before .lastInsertId
  | lookup {statement : Statement} {query : Query}
    (asked : planner.conflictQuery storing.row storing.deciding = .ok query)
    (selects : statement = query.select schema.idColumn)
    (finds : ∀ shown ∈ before.secondReply.rows, ∃ tuple ∈ after,
      query.Keeps (catalog.truth tuple) ∧ Names catalog shown tuple) :
    Reports planner storing stored after before (.lookup statement)

variable [DecidableEq κ] {catalog} {storing : Storing schema} {planner : Planner schema} {write : Write}
  {table after : List (Tuple κ)} {incoming stored : Tuple κ}

theorem Makes.mem (makes : Makes catalog table incoming storing stored after) : stored ∈ after := by
  cases makes with
  | created => exact List.mem_cons_self
  | upserted stores => exact stores.mem

/-- The identity that a row carries is used only if the stored tuple has it. -/
theorem hasId_of_known (planned : storing.plan planner = .ok write) (carries : storing.row.CarriesId)
    (writes : catalog.Writes storing.row.values incoming)
    (makes : Makes catalog table incoming storing stored after) (id : IdValue)
    (source : write.id = .known id) :
    catalog.compare (stored catalog.key) id.toValue = .yes := by
  cases makes with
  | created =>
    obtain ⟨_, columns, planned⟩ := exists_of_bind planned
    obtain ⟨_, found, planned⟩ := exists_of_bind planned
    obtain rfl := Except.ok.inj planned
    obtain ⟨rfl, _⟩ := Row.identifiers_of_writtenColumns columns
    obtain rfl : _ = IdSource.known id := source
    cases Planner.learns_of_idSource found with
    | known written => exact Catalog.compare_identity (writes.identity carries written)
  | upserted stores =>
    have identifies := (Planner.upserts_of_upsert planned).identifies
    rw [source] at identifies
    cases identifies with
    | known written deciding => exact stores.hasId writes carries written deciding

/-- A look-up finds the stored tuple only, and only if no null has been written into a column that
decides. -/
theorem stored_of_lookup (planned : storing.plan planner = .ok write)
    (writes : catalog.Writes storing.row.values incoming)
    (makes : Makes catalog table incoming storing stored after) (statement : Statement)
    (source : write.id = .lookup statement) (query : Query)
    (asked : planner.conflictQuery storing.row storing.deciding = .ok query) (tuple : Tuple κ)
    (listed : tuple ∈ after) (keeps : query.Keeps (catalog.truth tuple)) :
    tuple = stored ∧ storing.IsDecided catalog incoming := by
  cases makes with
  | created =>
    obtain ⟨_, _, planned⟩ := exists_of_bind planned
    obtain ⟨_, found, planned⟩ := exists_of_bind planned
    obtain rfl := Except.ok.inj planned
    exact absurd source (planner.idSource_ne_lookup found statement)
  | upserted stores =>
    have named := (Planner.upserts_of_upsert planned).deciding
    have clashes := (writes.keeps_lookup_iff asked named tuple).1 keeps
    exact ⟨stores.eq_of_clashes listed clashes,
      fun name decides column known => (clashes name decides column known).2.1⟩

theorem Reports.identifies {before : Session}
    (reports : Reports catalog planner storing stored after before write.id)
    (planned : storing.plan planner = .ok write)
    (writes : catalog.Writes storing.row.values incoming)
    (makes : Makes catalog table incoming storing stored after) {id : IdValue}
    (learned : write.id.Learned before id) :
    (((∃ carried, write.id = .known carried) → storing.row.CarriesId) →
      catalog.compare (stored catalog.key) id.toValue = .yes) ∧
    ((∃ statement, write.id = .lookup statement) → storing.IsDecided catalog incoming) := by
  have known := fun carries => hasId_of_known planned carries writes makes
  have found := stored_of_lookup planned writes makes
  -- what the reply says of the stored tuple is stated for the source that the identity comes from
  generalize write.id = source at reports learned known found
  cases learned with
  | known => exact ⟨fun carries => known (carries ⟨id, rfl⟩) id rfl, nofun⟩
  | returning first read =>
    cases reports with
    | returning returns =>
      exact ⟨fun _ => Catalog.compare_identity (returns _ first _ read), nofun⟩
  | lastInsertId kept =>
    cases reports with
    | lastInsertId keeps =>
      refine ⟨fun _ => Catalog.compare_identity ?_, nofun⟩
      rw [keeps _ kept]
      rfl
  | lookup first read =>
    cases reports with
    | lookup asked _ finds =>
      obtain ⟨tuple, listed, keeps, names⟩ := finds _ (List.mem_of_head? first)
      obtain ⟨rfl, decided⟩ := found _ rfl _ asked tuple listed keeps
      exact ⟨fun _ => Catalog.compare_identity (names _ read), fun _ => decided⟩

variable {repository : Repository schema} {id : schema.idType.Carrier} {before middle : Session}

theorem done_of_store (made : repository.planner .default = .ok planner)
    (planned : storing.plan planner = .ok write)
    (ran : (storing.store repository).run.run before = (.ok id, middle)) :
    ∃ carried, write.Done before carried middle ∧ schema.readId carried = .ok id := by
  have whole : storing.store repository = (do
      let planner ← (repository.planner .default : Except DataError (Planner schema))
      let write ← (storing.plan planner : Except DataError Write)
      repository.write write) := by
    cases storing <;> rfl
  rw [whole] at ran
  obtain ⟨_, made', ran⟩ := Engine.exists_of_run_value ran
  obtain rfl := Except.ok.inj (made.symm.trans made')
  obtain ⟨_, planned', ran⟩ := Engine.exists_of_run_value ran
  obtain rfl := Except.ok.inj (planned.symm.trans planned')
  exact Repository.done_of_write ran

theorem storeAndRead_run {found : Option (Row schema)} {ended : Session}
    (ran : (storing.store repository).run.run before = (.ok id, middle))
    (sought : (repository.findById id .default).run.run middle = (.ok found, ended)) :
    (storing.storeAndRead repository).run.run before =
      (match found with
        | some row => .ok row
        | none => .error (.notFound (.stored schema.table (schema.idType.describe id))), ended) := by
  have whole : storing.storeAndRead repository = storing.store repository >>= repository.stored := by
    cases storing <;> rfl
  rw [whole, run_bind_of_ok ran, Repository.stored, run_bind_of_ok sought]
  cases found <;> rfl

/-- A call that stores a row reads back that row, if it is seen. The write gives the identity of the
stored row, where an identity that the call carries itself is that of the row as written; a look-up for
it succeeds only if no null has been written into a column that decides. The select for that identity
keeps the stored row if and only if the row has it and bears no deletion marker, and else the call
fails, though the row has been stored. -/
theorem stored_row_is_returned_iff_shown (made : repository.planner .default = .ok planner)
    (unjoined : repository.spec.joins = []) (planned : storing.plan planner = .ok write)
    (writes : catalog.Writes storing.row.values incoming)
    (makes : Makes catalog table incoming storing stored after)
    (reports : Reports catalog planner storing stored after before write.id)
    (ran : (storing.store repository).run.run before = (.ok id, middle)) :
    (∃ carried, write.Done before carried middle ∧ schema.readId carried = .ok id) ∧
    (((∃ carried, write.id = .known carried) → storing.row.CarriesId) → catalog.HasId id stored) ∧
    ((∃ statement, write.id = .lookup statement) → storing.IsDecided catalog incoming) ∧
    ∀ found ended, (repository.findById id .default).run.run middle = (.ok found, ended) →
      ∃ owned select predicate rows, schema.idCondition id = .ok owned ∧
        planner.Selects owned (repository.localeIn middle) select predicate ∧
        repository.Loaded select (repository.spec.preloadsFor false) (repository.localeIn middle)
          middle rows ended ∧
        ((planner.visible (some owned)).Keeps (catalog.truth stored) ↔
          catalog.HasId id stored ∧ catalog.Shows planner stored) ∧
        ∀ shown : Tuple κ → ResultRow,
          Contents.Answers ⟨catalog.truth, shown⟩ (planner.visible (some owned)) after
            middle.reply →
          (∀ tuple ∈ after, catalog.HasId id tuple → tuple = stored) →
          (catalog.HasId id stored → catalog.Shows planner stored →
            ∃ row, (shown stored).Shows row ∧
              (storing.storeAndRead repository).run.run before = (.ok row, ended)) ∧
          (¬(catalog.HasId id stored ∧ catalog.Shows planner stored) →
            (storing.storeAndRead repository).run.run before =
              (.error (.notFound (.stored schema.table (schema.idType.describe id))), ended)) := by
  obtain ⟨carried, done, read⟩ := done_of_store made planned ran
  obtain ⟨denotes, decided⟩ := reports.identifies planned writes makes done.learned
  have hasId : ((∃ carried, write.id = .known carried) → storing.row.CarriesId) →
      catalog.HasId id stored :=
    fun carries => (Catalog.compare_of_readId read _).trans (denotes carries)
  refine ⟨⟨carried, done, read⟩, hasId, decided, ?_⟩
  intro found ended sought
  have named := Planner.isNamed_of_make made
  obtain ⟨select, rows, reads, loaded, first⟩ := Repository.loaded_of_findById made sought
  obtain ⟨owned, compared, _⟩ := exists_of_bind reads
  have plain : planner.spec.joins = [] := by
    obtain ⟨rfl, _⟩ := Planner.make_eq made
    exact unjoined
  obtain ⟨predicate, selects⟩ := planner.selects_of_byId named compared plain reads
  have keeps_iff (tuple : Tuple κ) : (planner.visible (some owned)).Keeps (catalog.truth tuple) ↔
      catalog.HasId id tuple ∧ catalog.Shows planner tuple :=
    Catalog.keeps_identity_iff named compared tuple
  refine ⟨owned, select, predicate, rows, compared, selects, loaded, keeps_iff stored, ?_⟩
  intro shown answers unique
  have answered := storeAndRead_run ran sought
  constructor
  · intro same seen
    -- the backend answers with a row that the select keeps, and no other tuple has the identity
    have kept := (keeps_iff stored).2 ⟨same, seen⟩
    obtain ⟨row, head, tuple, listed, keeps, shows⟩ :=
      answers.exists_head loaded.shows ⟨stored, makes.mem, kept⟩
    obtain rfl := unique tuple listed ((keeps_iff tuple).1 keeps).1
    rw [head] at first
    subst first
    exact ⟨row, shows, answered⟩
  · intro unseen
    have empty : rows = [] := by
      rw [← List.length_eq_zero_iff, ← loaded.shows.length_eq, List.length_eq_zero_iff,
        answers.rows_eq_nil_iff]
      intro tuple listed keeps
      have kept := (keeps_iff tuple).1 keeps
      obtain rfl := unique tuple listed kept.1
      exact unseen kept
    subst empty first
    exact answered

end Storing

/-- Users who are deleted by a marker. -/
def accountSchema : Schema :=
  ⟨"users", .i64, "id", ["id", "email", "deleted_at"], some "deleted_at", none,
    [("id", .id), ("email", .text)]⟩

def accounts : Repository accountSchema := ⟨.empty, .default, .pool⟩

def accountPlanner : Planner accountSchema := ⟨.empty, .default, false⟩

inductive AccountColumn where
  | id
  | email
  | deletedAt
deriving DecidableEq

def accountCatalog : Catalog accountSchema AccountColumn :=
  .ofNames [("id", .id), ("users.id", .id), ("email", .email), ("deleted_at", .deletedAt),
      ("users.deleted_at", .deletedAt)] .id rfl
    (by rintro _ marker; obtain rfl := Option.some.inj marker; rfl)
    (by rintro _ (rfl | marker); exacts [rfl, Option.some.inj marker ▸ rfl]) (by decide)

def account (id : Int64) (deletedAt : Argument) : Tuple AccountColumn
  | .id => .int id
  | .email => .text "a@b.c"
  | .deletedAt => deletedAt

/-- A user who comes with an address that is taken. -/
def signup : Storing accountSchema :=
  .upsert ⟨(0 : Int64), [("email", .text "a@b.c")], .empty⟩ ["email"] []

def accountRow : ResultRow := [("id", .bigint 1), ("email", .text "a@b.c")]

/-- A session whose backend returns the identity of the user, and then finds some rows. -/
def signingUp (rows : List ResultRow) : Session :=
  { Session.fresh with
    exchange := { Exchange.silent with
      replies := [{ Reply.empty with rows := [[("id", .bigint 1)]] },
        { Reply.empty with rows }] } }

namespace Storing

theorem writes_signup : accountCatalog.Writes signup.row.values (account 2 .null) := by
  intro entry listed
  obtain rfl := List.mem_singleton.1 listed
  exact ⟨.email, rfl, rfl⟩

theorem carriesId_signup : signup.row.CarriesId := by
  intro entry listed named
  obtain rfl := List.mem_singleton.1 listed
  have different : "email" ≠ "id" := by decide
  exact absurd named different

/-- The user is merged into the one who has the address, deleted or not. -/
theorem makes_signup (deletedAt : Argument) : Makes accountCatalog [account 1 deletedAt]
    (account 2 .null) signup (account 1 deletedAt) [account 1 deletedAt] := by
  have clashes : accountCatalog.Clashes ["email"] (account 1 deletedAt) (account 2 .null) := by
    intro name listed column known
    obtain rfl := List.mem_singleton.1 listed
    obtain rfl : AccountColumn.email = column := Option.some.inj known
    exact ⟨nofun, nofun, accountCatalog.equal_self _⟩
  have merged : accountCatalog.merge ["email"] (account 1 deletedAt) (account 2 .null) =
      account 1 deletedAt := by
    funext column
    cases column <;> rfl
  have stores : accountCatalog.Stores ["email"] ["email"] ([] ++ [account 1 deletedAt])
      (account 2 .null) (accountCatalog.merge ["email"] (account 1 deletedAt) (account 2 .null)) _ :=
    .merged rfl clashes nofun
  rw [merged] at stores
  exact .upserted stores

theorem reports_signup (deletedAt : Argument) (rows : List ResultRow) :
    Reports accountCatalog accountPlanner signup (account 1 deletedAt) [account 1 deletedAt]
      (signingUp rows) .returning := by
  refine .returning fun shown first id read => ?_
  obtain rfl : [("id", .bigint 1)] = shown := Option.some.inj first
  obtain rfl := Except.ok.inj read
  rfl

theorem stored_row_is_returned_iff_shown_of_signup :
    ∃ row ended, accountRow.Shows row ∧
      (signup.storeAndRead accounts).run.run (signingUp [accountRow]) = (.ok row, ended) := by
  have made : accounts.planner .default = .ok accountPlanner := rfl
  have planned : ∃ write, signup.plan accountPlanner = .ok write ∧ write.id = .returning ∧
      write.statements.length = 1 := ⟨_, rfl, rfl, rfl⟩
  obtain ⟨write, planned, source, single⟩ := planned
  have reports := reports_signup .null [accountRow]
  rw [← source] at reports
  have answered : ((signup.storeAndRead accounts).run.run (signingUp [accountRow])).1.isOk := by
    decide +kernel
  have whole : signup.storeAndRead accounts = signup.store accounts >>= accounts.stored := rfl
  rcases ran : (signup.storeAndRead accounts).run.run (signingUp [accountRow]) with
    ⟨error | answer, ended⟩
  · rw [ran] at answered
    contradiction
  obtain ⟨id, middle, storing, reading⟩ := exists_of_run_bind (whole ▸ ran)
  unfold Repository.stored at reading
  obtain ⟨found, heard, sought, _⟩ := exists_of_run_bind reading
  obtain ⟨⟨_, done, _⟩, hasId, _, rereads⟩ := stored_row_is_returned_iff_shown
    made rfl planned writes_signup (makes_signup .null) reports storing
  replace hasId := hasId fun _ => carriesId_signup
  obtain ⟨owned, _, _, _, _, _, _, keeps, answers⟩ := rereads found heard sought
  have seen : accountCatalog.Shows accountPlanner (account 1 .null) := by
    intro _ column marked
    obtain rfl : AccountColumn.deletedAt = column := Option.some.inj marked
    rfl
  have replied : Contents.Answers ⟨accountCatalog.truth, fun _ => accountRow⟩
      (accountPlanner.visible (some owned)) [account 1 .null] middle.reply := by
    have next : middle.reply = { Reply.empty with rows := [accountRow] } := by
      rw [Session.reply, done.replies, single]
      rfl
    rw [next]
    refine ⟨fun shown member => ?_, fun _ => List.cons_ne_nil _ _⟩
    exact ⟨_, List.mem_singleton_self _, keeps.2 ⟨hasId, seen⟩, List.mem_singleton.1 member⟩
  have unique : ∀ tuple ∈ [account 1 .null], accountCatalog.HasId id tuple → tuple = account 1 .null :=
    fun tuple listed _ => List.mem_singleton.1 listed
  obtain ⟨row, shows, returned⟩ := (answers _ replied unique).1 hasId seen
  exact ⟨row, heard, shows, ran.symm.trans returned⟩

def deletion : Argument := .text "2024-05-01"

def returningRun : Except DataError (Row accountSchema) × Session :=
  (signup.storeAndRead accounts).run.run (signingUp [])

def returningEvents : List Event :=
  [.statement ("INSERT INTO users (email) VALUES (?) " ++
      "ON CONFLICT (email) DO UPDATE SET email = excluded.email RETURNING id") [.text "a@b.c"],
    .statement ("SELECT * FROM users WHERE users.id = ? AND users.deleted_at IS NULL " ++
      "ORDER BY users.id ASC LIMIT 1") [.int 1]]

/-- The address is that of a user who has been deleted: the row is merged into the deleted one, which
is not read back, and the call fails although it has written. -/
theorem row_merged_into_deleted_is_not_returned :
    (signup.plan accountPlanner).isOk ∧
    accountCatalog.Writes signup.row.values (account 2 .null) ∧
    Makes accountCatalog [account 1 deletion] (account 2 .null) signup (account 1 deletion)
      [account 1 deletion] ∧
    returningRun.1 = .error (.notFound (.stored "users" "1")) ∧
    returningRun.2.exchange.log = returningEvents ∧
    ∃ owned, accountSchema.idCondition (1 : Int64) = .ok owned ∧
      accountCatalog.HasId (1 : Int64) (account 1 deletion) ∧
      ¬(accountPlanner.visible (some owned)).Keeps (accountCatalog.truth (account 1 deletion)) := by
  have made : accounts.planner .default = .ok accountPlanner := rfl
  have compared : accountSchema.idCondition (1 : Int64) = .ok (.eq "users.id" (.int 1)) := rfl
  have named := Planner.isNamed_of_make made
  have ended : (returningRun.1.map fun row => row.values.map Prod.fst,
      returningRun.2.exchange.log) =
        (.error (.notFound (.stored "users" "1")), returningEvents) := by
    decide +kernel
  obtain ⟨failed, logged⟩ := Prod.mk.inj ended
  have hasId : accountCatalog.HasId (1 : Int64) (account 1 deletion) :=
    Catalog.compare_identity rfl
  refine ⟨rfl, writes_signup, makes_signup deletion, eq_error_of_map failed, logged, _, compared,
    hasId, ?_⟩
  rw [Catalog.keeps_identity_iff named compared]
  rintro ⟨_, seen⟩
  have marked : deletion ≠ .null := nofun
  exact marked (seen rfl .deletedAt rfl)

end Storing

end DataAccess
