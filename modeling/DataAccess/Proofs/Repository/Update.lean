import DataAccess.Proofs.Repository.Success
import DataAccess.Proofs.Storage.Tuple

/-! Updates that read the row again. The update and the select are planned for one identity, so they
have one predicate. But the changes may assign the columns that it mentions, and then the row that
has been updated is not the one that is read. -/
namespace DataAccess

open Sql

namespace Catalog

variable {schema : Schema} {κ : Type} [DecidableEq κ] (catalog : Catalog schema κ)

/-- Assign the values of columns to a tuple, in order. -/
def set? : List (String × Value) → Tuple κ → Option (Tuple κ)
  | [], tuple => some tuple
  | (name, value) :: rest, tuple => do
    let column ← catalog.column? name
    let datum ← value.datum?
    set? rest (Function.update tuple column datum)

/-- What assignments put into a column, if anything; the last one counts. -/
def assigned? : List (String × Value) → κ → Option Argument
  | [], _ => none
  | (name, value) :: rest, column =>
    (assigned? rest column).or (if catalog.column? name = some column then value.datum? else none)

variable {catalog}

theorem set?_apply {assignments : List (String × Value)} {tuple changed : Tuple κ}
    (done : catalog.set? assignments tuple = some changed) (column : κ) :
    changed column = (catalog.assigned? assignments column).getD (tuple column) := by
  induction assignments generalizing tuple with
  | nil =>
    cases done
    rfl
  | cons assignment rest ih =>
    obtain ⟨name, value⟩ := assignment
    obtain ⟨target, known, done⟩ := Option.bind_eq_some_iff.1 done
    obtain ⟨datum, given, done⟩ := Option.bind_eq_some_iff.1 done
    rw [ih done, assigned?, known, given]
    cases later : catalog.assigned? rest column with
    | some other => rfl
    | none =>
      by_cases same : target = column
      · subst same
        simp
      · simp [same, Function.update_of_ne (Ne.symm same)]

variable (catalog)

/-- Whether changes leave a row where it is read: the identity that they assign, if any, is the one
that the row has, and they set no deletion marker that hides it. -/
structure Spares (planner : Planner schema) (id : schema.idType.Carrier) (changes : Changes) :
    Prop where
  identity : ∀ datum ∈ catalog.assigned? changes.assignments catalog.key,
    catalog.compare datum (schema.idValue id).toValue = .yes
  marker : planner.unscoped = false → ∀ column ∈ catalog.marker?,
    ∀ datum ∈ catalog.assigned? changes.assignments column, datum = .null

/-- A row of a table, before and after an update of the rows that a query keeps. -/
inductive Updates (query : Query) (changes : Changes) (tuple : Tuple κ) : Tuple κ → Prop
  | changed {later : Tuple κ} (keeps : query.Keeps (catalog.truth tuple))
    (set : catalog.set? changes.assignments tuple = some later) : Updates query changes tuple later
  | left (unseen : ¬query.Keeps (catalog.truth tuple)) : Updates query changes tuple tuple

variable {catalog}

theorem assigned?_eq_none {assignments : List (String × Value)} {column : κ}
    (untouched : ∀ name ∈ assignments.map Prod.fst, catalog.column? name ≠ some column) :
    catalog.assigned? assignments column = none := by
  induction assignments with
  | nil => rfl
  | cons assignment rest ih =>
    obtain ⟨here, later⟩ := List.forall_mem_cons.1 untouched
    rw [assigned?, ih later, if_neg here]
    rfl

/-- Changes that assign neither the identity nor the deletion marker spare every row. -/
theorem spares_of_untouched {planner : Planner schema} {id : schema.idType.Carrier}
    {changes : Changes}
    (untouched : ∀ name ∈ changes.assignments.map Prod.fst,
      catalog.column? name ≠ some catalog.key ∧
        ∀ marker ∈ catalog.marker?, catalog.column? name ≠ some marker) :
    catalog.Spares planner id changes := by
  constructor
  · intro datum assigned
    rw [assigned?_eq_none fun name listed => (untouched name listed).1] at assigned
    contradiction
  · intro _ marker marked datum assigned
    rw [assigned?_eq_none fun name listed => (untouched name listed).2 marker marked] at assigned
    contradiction

variable {planner : Planner schema} {id : schema.idType.Carrier} {changes : Changes}
  {tuple changed : Tuple κ}

theorem spares_iff (hasId : catalog.HasId id tuple) (shows : catalog.Shows planner tuple)
    (set : catalog.set? changes.assignments tuple = some changed) :
    catalog.HasId id changed ∧ catalog.Shows planner changed ↔
      catalog.Spares planner id changes := by
  have here := set?_apply set
  constructor
  · rintro ⟨hasId', shows'⟩
    refine ⟨fun datum assigned => ?_, fun hides column marked datum assigned => ?_⟩
    · rw [HasId, here, Option.mem_def.1 assigned] at hasId'
      exact hasId'
    · have clear := shows' hides column marked
      rw [here, Option.mem_def.1 assigned] at clear
      exact clear
  · rintro ⟨identity, marker⟩
    constructor
    · rw [HasId, here]
      cases assigned : catalog.assigned? changes.assignments catalog.key with
      | none => exact hasId
      | some datum => exact identity datum assigned
    · intro hides column marked
      rw [here]
      cases assigned : catalog.assigned? changes.assignments column with
      | none => exact shows hides column marked
      | some datum => exact marker hides column marked datum assigned

end Catalog

namespace Planner

variable {schema : Schema} {planner : Planner schema} {owned : Condition} {changes : Changes}
  {update select : Statement}

theorem update_eq (planned : planner.update (some owned) changes = .ok update) :
    update = (planner.mutation (schema.updateHead changes.assignments) (some owned)
      planner.scope?).render planner.dialect := by
  unfold Planner.update at planned
  split at planned
  · cases planned
  · obtain ⟨_, _, planned⟩ := exists_of_bind planned
    exact (Except.ok.inj planned).symm

/-- An update of a row and the select that reads it again, for one predicate. -/
structure Rereads (planner : Planner schema) (owned : Condition) (changes : Changes)
    (locale : String) (update select : Statement) (predicate : Fragment) : Prop
    extends planner.Selects owned locale select predicate where
  updates : update = Fragment.render
    ⟨(schema.updateHead changes.assignments).sql ++ " WHERE " ++ predicate.sql,
      (schema.updateHead changes.assignments).args ++ predicate.args⟩ planner.dialect

theorem rereads (named : schema.IsNamed) (unjoined : planner.spec.joins = [])
    {id : schema.idType.Carrier} (compared : schema.idCondition id = .ok owned) {locale : String}
    (updates : planner.update (some owned) changes = .ok update)
    (reads : planner.byId id locale = .ok select) :
    ∃ predicate, planner.Rereads owned changes locale update select predicate := by
  obtain ⟨predicate, selected⟩ := planner.selects_of_byId named compared unjoined reads
  have restricted : (planner.wholeTable.restrict (some owned) planner.scope?).predicate? =
      some predicate :=
    (planner.predicate?_visible_eq_guard (some owned)).symm.trans selected.restricts
  refine ⟨predicate, selected, ?_⟩
  rw [update_eq updates, mutation, restricted]

end Planner

namespace Repository

open Engine

variable {schema : Schema} {repository : Repository schema} {planner : Planner schema}
  {id : schema.idType.Carrier} {owned : Condition} {changes : Changes} {update select : Statement}
  {before after : Session} {answer : Option (Row schema)}

/-- What an update that answers has done: it has sent the update and the select, its answer is the
first row of the second reply, and the relations of the rows have been asked for. -/
structure Updated (repository : Repository schema) (update select : Statement) (before : Session)
    (answer : Option (Row schema)) (after : Session) : Prop where
  shows : ∃ rows, List.Forall₂ ResultRow.Shows before.secondReply.rows rows ∧
    answer = rows.head? ∧
    ∃ updating reading queries, update.IsEvent updating ∧ select.IsEvent reading ∧
      Preload.AskedInOrder (repository.localeIn before) repository.settings.dialect rows
        (repository.spec.preloadsFor false) true queries ∧
      after.exchange.log = before.exchange.log ++ updating :: reading :: queries

theorem updated_of_updateById (made : repository.planner .default = .ok planner)
    (compared : schema.idCondition id = .ok owned)
    (updates : planner.update (some owned) changes = .ok update)
    (reads : planner.byId id (repository.localeIn before) = .ok select)
    (ran : (repository.updateById id changes).run.run before = (.ok answer, after)) :
    repository.Updated update select before answer after := by
  obtain ⟨_, made', ran⟩ := exists_of_run_value ran
  obtain rfl := Except.ok.inj (made.symm.trans made')
  obtain ⟨_, compared', ran⟩ := exists_of_run_value ran
  obtain rfl := Except.ok.inj (compared.symm.trans compared')
  obtain ⟨_, updates', ran⟩ := exists_of_run_value ran
  obtain rfl := Except.ok.inj (updates.symm.trans updates')
  rw [repository.run_locale_bind] at ran
  obtain ⟨_, reads', ran⟩ := exists_of_run_value ran
  obtain rfl := Except.ok.inj (reads.symm.trans reads')
  obtain ⟨entered, left, enters, ran, leaves⟩ := exchanged_of_connected ran
  obtain ⟨_, middle, executed, ran⟩ := exists_of_run_bind ran
  obtain ⟨reply, heard, sending, executed⟩ := exists_of_run_bind executed
  obtain ⟨_, rfl⟩ := eq_of_run_pure executed
  obtain ⟨rows, _, loading, ran⟩ := exists_of_run_bind ran
  obtain ⟨rfl, rfl⟩ := eq_of_run_pure ran
  obtain ⟨_, sent⟩ := answered_of_send sending
  have loaded := loaded_of_load loading
  obtain ⟨updating, event, logged⟩ := sent.sent
  obtain ⟨reading, queries, event', related, logged'⟩ := loaded.sent
  refine ⟨rows, ?_, rfl, updating, reading, queries, event, event', related, ?_⟩
  case refine_2 =>
    rw [leaves, logged', logged, enters, List.append_assoc]
    rfl
  · have second : heard.reply = before.secondReply := by
      rw [sent.next, Session.secondReply, enters]
      rfl
    exact second ▸ loaded.shows

/-- Of the rows that an update reaches, the select finds those again whose changes spare them. -/
theorem keeps_later_iff {κ : Type} [DecidableEq κ] {catalog : Catalog schema κ}
    (named : schema.IsNamed) (compared : schema.idCondition id = .ok owned)
    {tuple later : Tuple κ}
    (updates : catalog.Updates (planner.visible (some owned)) changes tuple later) :
    (planner.visible (some owned)).Keeps (catalog.truth later) ↔
      (planner.visible (some owned)).Keeps (catalog.truth tuple) ∧
        catalog.Spares planner id changes := by
  cases updates with
  | changed keeps set =>
    rw [Catalog.keeps_identity_iff named compared] at keeps ⊢
    rw [Catalog.spares_iff keeps.1 keeps.2 set, Catalog.keeps_identity_iff named compared]
    exact (and_iff_right keeps).symm
  | left unseen => exact iff_of_false unseen fun seen => unseen seen.1

theorem exists_later_iff {κ : Type} [DecidableEq κ] {catalog : Catalog schema κ}
    (named : schema.IsNamed) (compared : schema.idCondition id = .ok owned)
    {table tuples : List (Tuple κ)}
    (updates : List.Forall₂ (catalog.Updates (planner.visible (some owned)) changes) table tuples) :
    (∃ tuple ∈ tuples, (planner.visible (some owned)).Keeps (catalog.truth tuple)) ↔
      (∃ tuple ∈ table, (planner.visible (some owned)).Keeps (catalog.truth tuple)) ∧
        catalog.Spares planner id changes := by
  induction updates with
  | nil => simp
  | cons head _ ih =>
    simp only [List.exists_mem_cons_iff, keeps_later_iff named compared head, ih, or_and_right]

/-- The update and the select that reads the row again have one predicate. A row that has been
updated is read again if and only if the changes spare it, so an update whose changes do not answers
that there is no such row, whether it has changed one or not. -/
theorem updated_row_is_read_iff_spared (made : repository.planner .default = .ok planner)
    (unjoined : repository.spec.joins = []) (compared : schema.idCondition id = .ok owned)
    (updates : planner.update (some owned) changes = .ok update)
    (reads : planner.byId id (repository.localeIn before) = .ok select) :
    (∃ predicate,
      planner.Rereads owned changes (repository.localeIn before) update select predicate) ∧
    (∀ answer after, (repository.updateById id changes).run.run before = (.ok answer, after) →
      repository.Updated update select before answer after) ∧
    ∀ (κ : Type) [DecidableEq κ] (catalog : Catalog schema κ),
      (∀ tuple changed, (planner.visible (some owned)).Keeps (catalog.truth tuple) →
        catalog.set? changes.assignments tuple = some changed →
        ((planner.visible (some owned)).Keeps (catalog.truth changed) ↔
          catalog.Spares planner id changes)) ∧
      ∀ answer after, (repository.updateById id changes).run.run before = (.ok answer, after) →
        ∀ shown table tuples,
          List.Forall₂ (catalog.Updates (planner.visible (some owned)) changes) table tuples →
          Contents.Answers ⟨catalog.truth, shown⟩ (planner.visible (some owned)) tuples
            before.secondReply →
          (answer = none ↔
            (∀ tuple ∈ table, ¬(planner.visible (some owned)).Keeps (catalog.truth tuple)) ∨
              ¬catalog.Spares planner id changes) := by
  have named := Planner.isNamed_of_make made
  obtain ⟨rfl, _⟩ := Planner.make_eq made
  refine ⟨Planner.rereads named unjoined compared updates reads, ?_, ?_⟩
  · intro answer after ran
    exact updated_of_updateById made compared updates reads ran
  intro κ _ catalog
  constructor
  · intro tuple changed keeps set
    rw [keeps_later_iff named compared (.changed keeps set)]
    exact and_iff_right keeps
  · intro answer after ran shown table tuples updated answers
    obtain ⟨rows, shows, rfl, _⟩ := (updated_of_updateById made compared updates reads ran).shows
    have found := exists_later_iff named compared updated
    have empty : rows = [] ↔ before.secondReply.rows = [] := by
      rw [← List.length_eq_zero_iff, ← shows.length_eq, List.length_eq_zero_iff]
    rw [List.head?_eq_none_iff, empty, answers.rows_eq_nil_iff]
    have lost := not_congr found
    rw [not_and_or] at lost
    push Not at lost
    exact lost

def namedPlanner : Planner namedSchema := ⟨.empty, .default, false⟩

def firstUser : Condition := .eq "users.id" (.int 1)

/-- The columns of users. -/
inductive UserColumn where
  | id
  | name
deriving DecidableEq

def userCatalog : Catalog namedSchema UserColumn :=
  .ofNames [("id", .id), ("users.id", .id), ("name", .name)] .id rfl nofun
    (by rintro _ (rfl | marker); exacts [rfl, nomatch marker]) (by decide)

def user (id : Int64) (name : String) : Tuple UserColumn
  | .id => .int id
  | .name => .text name

/-- A session whose backend updates one row and finds it again. -/
def renamed : Session :=
  { Session.fresh with
    exchange := { Exchange.silent with
      replies := [{ Reply.empty with affected := 1 }, { Reply.empty with rows := [annRow] }] } }

theorem keeps_user_iff (id : Int64) (name : String) :
    (namedPlanner.visible (some firstUser)).Keeps (userCatalog.truth (user id name)) ↔ id = 1 := by
  have named : namedSchema.IsNamed := ⟨by decide, nofun⟩
  have compared : namedSchema.idCondition (1 : Int64) = .ok firstUser := rfl
  rw [Catalog.keeps_identity_iff named compared]
  unfold Catalog.HasId
  rw [Catalog.compare_eq_yes]
  constructor
  · rintro ⟨⟨given, datum, _, _, equal⟩, _⟩
    obtain rfl : Argument.int 1 = given := Option.some.inj datum
    have same := of_decide_eq_true equal
    exact Argument.int.inj same
  · rintro rfl
    exact ⟨⟨.int 1, rfl, nofun, nofun, userCatalog.equal_self _⟩, fun _ => nofun⟩

theorem updated_row_is_read_iff_spared_of_rename :
    let changes := Changes.ofList [("name", .text "ann")]
    ∃ update select,
      namedPlanner.update (some firstUser) changes = .ok update ∧
      namedPlanner.byId (1 : Int64) (namedUsers.localeIn renamed) = .ok select ∧
      ∃ found after,
        (namedUsers.updateById (1 : Int64) changes).run.run renamed = (.ok (some found), after) := by
  intro changes
  have made : namedUsers.planner .default = .ok namedPlanner := rfl
  have compared : namedSchema.idCondition (1 : Int64) = .ok firstUser := rfl
  have updates : ∃ update, namedPlanner.update (some firstUser) changes = .ok update := ⟨_, rfl⟩
  have reads : ∃ select,
      namedPlanner.byId (1 : Int64) (namedUsers.localeIn renamed) = .ok select := ⟨_, rfl⟩
  obtain ⟨update, updates⟩ := updates
  obtain ⟨select, reads⟩ := reads
  refine ⟨update, select, updates, reads, ?_⟩
  obtain ⟨_, _, meaning⟩ := updated_row_is_read_iff_spared made rfl compared updates reads
  have ended : ((namedUsers.updateById (1 : Int64) changes).run.run renamed).1.isOk = true := by
    decide +kernel
  rcases ran : (namedUsers.updateById (1 : Int64) changes).run.run renamed with
    ⟨error | answer, after⟩
  · rw [ran] at ended
    contradiction
  have keeps := (keeps_user_iff 1 "bob").2 rfl
  have spares : userCatalog.Spares namedPlanner (1 : Int64) changes := by
    refine Catalog.spares_of_untouched fun name listed => ?_
    obtain rfl : name = "name" := List.mem_singleton.1 listed
    exact ⟨by decide, nofun⟩
  have set : userCatalog.set? changes.assignments (user 1 "bob") = some (user 1 "ann") := by
    refine congrArg some (funext fun column => ?_)
    cases column <;> rfl
  have answers : Contents.Answers ⟨userCatalog.truth, fun _ => annRow⟩
      (namedPlanner.visible (some firstUser)) [user 1 "ann"] renamed.secondReply := by
    refine ⟨fun shown member => ?_, fun _ => nofun⟩
    exact ⟨_, List.mem_singleton_self _, (keeps_user_iff 1 "ann").2 rfl, List.mem_singleton.1 member⟩
  have lost := (meaning UserColumn userCatalog).2 answer after ran (fun _ => annRow) [user 1 "bob"] _
    (.cons (.changed keeps set) .nil) answers
  cases answer with
  | some found => exact ⟨found, after, rfl⟩
  | none =>
    rcases lost.1 rfl with unseen | touched
    · exact absurd keeps (unseen _ (List.mem_singleton_self _))
    · exact absurd spares touched

/-- Changes that give a user another identity. -/
def renumbering : Changes := .ofList [("id", .int 2), ("name", .text "ann")]

/-- A session whose backend updates one row, and finds none afterwards. -/
def renumbered : Session :=
  { Session.fresh with
    exchange := { Exchange.silent with replies := [{ Reply.empty with affected := 1 }] } }

def renumberingRun : Except DataError (Option (Row namedSchema)) × Session :=
  (namedUsers.updateById (1 : Int64) renumbering).run.run renumbered

def renumberingEvents : List Event :=
  [.statement "UPDATE users SET id = ?, name = ? WHERE users.id = ?" [.int 2, .text "ann", .int 1],
    .statement "SELECT * FROM users WHERE users.id = ? ORDER BY users.id ASC LIMIT 1" [.int 1]]

/-- The update reaches the user and changes it, and the select for the old identity does not keep
what it has become: the call answers that nothing has matched. -/
theorem renumbered_row_is_not_read :
    (namedPlanner.update (some firstUser) renumbering).isOk ∧
    renumberingRun.1.map Option.isNone = .ok true ∧
    renumberingRun.2.exchange.log = renumberingEvents ∧
    (namedPlanner.visible (some firstUser)).Keeps (userCatalog.truth (user 1 "bob")) ∧
    userCatalog.set? renumbering.assignments (user 1 "bob") = some (user 2 "ann") ∧
    ¬(namedPlanner.visible (some firstUser)).Keeps (userCatalog.truth (user 2 "ann")) := by
  have ended : (renumberingRun.1.map Option.isNone, renumberingRun.2.exchange.log) =
      (.ok true, renumberingEvents) := by
    decide +kernel
  obtain ⟨answered, logged⟩ := Prod.mk.inj ended
  refine ⟨rfl, answered, logged, (keeps_user_iff 1 "bob").2 rfl, ?_, ?_⟩
  · refine congrArg some (funext fun column => ?_)
    cases column <;> rfl
  · rw [keeps_user_iff]
    decide

end Repository

end DataAccess
