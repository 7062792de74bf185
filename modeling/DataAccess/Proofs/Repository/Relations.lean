import DataAccess.Proofs.Entity.Equality
import DataAccess.Proofs.Repository.Success

/-! Related rows on their way to their parents. Every preload asks once for the rows of all keys that
parents have, null left out, and hands each parent the rows whose key has the text of its own. The text
of null is empty, so a parent with the key null gets the rows of an empty key. -/
namespace DataAccess

open Engine

namespace Record

/-- The text of the key by which a loaded record belongs to a parent. -/
def keyText (record : Record) : String := ((record.get? preloadKey).getD .null).toText

/-- What a parent is handed of loaded records: in their order, those whose key has the text of its
own, without the column of the key. -/
def handed (records : List Record) (key? : Option Value) : List Record :=
  (records.filter fun record => key?.any fun key => record.keyText = key.toText).map
    (·.erase preloadKey)

/-- The records that belong to a parent. None belongs to a parent without a key, or with the key
null. -/
def deserved (records : List Record) (key? : Option Value) : List Record :=
  handed records (key?.filter fun key => !key.isNull)

theorem deserved_null (records : List Record) : deserved records (some .null) = [] := by
  simp [deserved, handed, Value.isNull]

/-- A parent gets what belongs to it, unless its key is null and a record has an empty key. -/
theorem handed_eq_deserved_iff (records : List Record) (key? : Option Value) :
    handed records key? = deserved records key? ↔
      (key? = some .null → ∀ record ∈ records, record.keyText ≠ "") := by
  cases key? with
  | none => exact iff_of_true rfl nofun
  | some key =>
    by_cases null : key.isNull
    · obtain rfl : key = .null := by
        cases key <;> first | rfl | cases null
      have empty : Value.null.toText = "" := by
        simp only [Value.toText]
      rw [deserved_null, handed, List.map_eq_nil_iff, List.filter_eq_nil_iff]
      simp [empty]
    · have kept : deserved records (some key) = handed records (some key) := by
        rw [deserved, Option.filter_some, if_pos (by simpa using null)]
      rw [kept]
      refine iff_of_true rfl fun same => ?_
      rw [Option.some.inj same] at null
      exact absurd rfl null

end Record

namespace Row

variable {schema : Schema}

/-- A row with the records of a preload that it is handed. -/
def receive (parent : Row schema) (preload : Preload) (records : List Record) : Row schema :=
  { parent with
    attached := parent.attached.insert preload.relation
      (Record.handed records (parent.keyValue? preload.localKey)) }

/-- A row with what it is handed of the records of several preloads. -/
def receiveAll (parent : Row schema) (loads : List (Preload × List Record)) : Row schema :=
  loads.foldl (fun row load => row.receive load.1 load.2) parent

theorem receiveAll_keeps (parent : Row schema) (loads : List (Preload × List Record)) :
    (parent.receiveAll loads).id = parent.id ∧ (parent.receiveAll loads).values = parent.values := by
  induction loads generalizing parent with
  | nil => exact ⟨rfl, rfl⟩
  | cons load rest ih => exact ih (parent.receive load.1 load.2)

theorem keyValue?_receiveAll (parent : Row schema) (loads : List (Preload × List Record))
    (column : String) : (parent.receiveAll loads).keyValue? column = parent.keyValue? column := by
  obtain ⟨id, values⟩ := parent.receiveAll_keeps loads
  rw [keyValue?, id, values]
  rfl

theorem get?_receiveAll (parent : Row schema) {relation : String}
    {loads : List (Preload × List Record)} (other : ∀ load ∈ loads, load.1.relation ≠ relation) :
    (parent.receiveAll loads).attached.get? relation = parent.attached.get? relation := by
  induction loads generalizing parent with
  | nil => rfl
  | cons load rest ih =>
    obtain ⟨here, later⟩ := List.forall_mem_cons.1 other
    have kept := ih (parent.receive load.1 load.2) later
    refine kept.trans ?_
    rw [receive, Dict.get?_insert, if_neg (Ne.symm here)]

theorem get?_receiveAll_of_last (parent : Row schema) {preload : Preload} {records : List Record}
    {earlier later : List (Preload × List Record)}
    (last : ∀ load ∈ later, load.1.relation ≠ preload.relation) :
    (parent.receiveAll (earlier ++ (preload, records) :: later)).attached.get? preload.relation =
      some (Record.handed records (parent.keyValue? preload.localKey)) := by
  have split : parent.receiveAll (earlier ++ (preload, records) :: later) =
      ((parent.receiveAll earlier).receive preload records).receiveAll later :=
    List.foldl_append
  rw [split, get?_receiveAll _ last, receive, Dict.get?_insert, if_pos rfl, keyValue?_receiveAll]

/-- What becomes of a parent for which a preload has loaded records: it keeps what it is, and is handed
the records of its key. They are those that belong to it, unless its key is null and a record has an
empty key. -/
structure Receives (parent child : Row schema) (preload : Preload) (records : List Record) : Prop where
  id : child.id = parent.id
  values : child.values = parent.values
  handed : child.attached.get? preload.relation =
    some (Record.handed records (parent.keyValue? preload.localKey))
  deserved : child.attached.get? preload.relation =
      some (Record.deserved records (parent.keyValue? preload.localKey)) ↔
    (parent.keyValue? preload.localKey = some .null → ∀ record ∈ records, record.keyText ≠ "")

theorem receives_receiveAll (parent : Row schema) {preload : Preload} {records : List Record}
    {earlier later : List (Preload × List Record)}
    (last : ∀ load ∈ later, load.1.relation ≠ preload.relation) :
    parent.Receives (parent.receiveAll (earlier ++ (preload, records) :: later)) preload records := by
  obtain ⟨id, values⟩ := parent.receiveAll_keeps (earlier ++ (preload, records) :: later)
  have handed := @get?_receiveAll_of_last _ parent preload records earlier later last
  refine ⟨id, values, handed, ?_⟩
  rw [handed, Option.some_inj, Record.handed_eq_deserved_iff]

end Row

namespace Engine

variable {schema : Schema} {locale : String} {dialect : Dialect} {preload : Preload}
  {preloads : List Preload} {parents children : List (Row schema)} {before after : Session}

/-- The records of a preload: those of the reply to its statement. Without keys nothing is asked, and
there are none. -/
inductive Fetches (locale : String) (dialect : Dialect) (preload : Preload) (keys : List Value)
    (before : Session) : List Record → Session → Prop
  | unasked (keyless : keys = []) : Fetches locale dialect preload keys before [] before
  | asked {statement : Statement} {records : List Record} {after : Session}
    (planned : preload.statement keys locale dialect = .ok statement)
    (answered : statement.Answered before after)
    (decoded : before.reply.rows.mapM ResultRow.decode = .ok records) :
    Fetches locale dialect preload keys before records after

/-- The records of preloads, each for the keys that the parents have for it. -/
inductive FetchesAll (locale : String) (dialect : Dialect) (parents : List (Row schema)) :
    List Preload → Session → List (List Record) → Session → Prop
  | done (session : Session) : FetchesAll locale dialect parents [] session [] session
  | next {preload : Preload} {preloads : List Preload} {records : List Record}
    {replies : List (List Record)} {before middle after : Session}
    (fetches : Fetches locale dialect preload (parentKeys parents preload.localKey) before records
      middle)
    (rest : FetchesAll locale dialect parents preloads middle replies after) :
    FetchesAll locale dialect parents (preload :: preloads) before (records :: replies) after

/-- No parent's rows are asked for by the key null. -/
theorem isNull_of_mem_parentKeys {column : String} {key : Value}
    (asked : key ∈ parentKeys parents column) : key.isNull = false := by
  rw [parentKeys, foldl_addKey] at asked
  have held := (List.mem_filter.1 (Value.mem_of_mem_firstOccurrences asked)).2
  simpa using held

theorem fetches_of_fetchRelated {keys : List Value} {related : List Related}
    (ran : (fetchRelated preload keys locale dialect).run.run before = (.ok related, after)) :
    ∃ records, Fetches locale dialect preload keys before records after ∧
      related = records.map Related.ofRecord := by
  unfold fetchRelated at ran
  split at ran
  case isTrue empty =>
    obtain ⟨rfl, rfl⟩ := eq_of_run_pure ran
    exact ⟨[], .unasked (List.isEmpty_iff.1 empty), rfl⟩
  case isFalse =>
    obtain ⟨statement, planned, ran⟩ := exists_of_run_value ran
    obtain ⟨rows, middle, fetched, ran⟩ := exists_of_run_bind ran
    obtain ⟨rfl, answered⟩ := answered_of_fetchRows fetched
    obtain ⟨records, decoded, ran⟩ := exists_of_run_value ran
    obtain ⟨rfl, rfl⟩ := eq_of_run_pure ran
    exact ⟨records, .asked planned answered decoded, rfl⟩

theorem relatedTo_eq_handed {α : Type} [Entity α] (records : List Record) (parent : α)
    (column : String) :
    relatedTo (records.map Related.ofRecord) parent column =
      Record.handed records (Entity.keyValue? parent column) := by
  unfold relatedTo Record.handed
  cases Entity.keyValue? parent column with
  | none => simp
  | some key =>
    dsimp only
    rw [List.filter_map, List.map_map]
    rfl

theorem received_of_attach {records : List Record}
    (attached : (parents.mapM fun parent => parent.attach preload.relation
      (Record.handed records (parent.keyValue? preload.localKey))) = .ok children) :
    children = parents.map (·.receive preload records) := by
  induction parents generalizing children with
  | nil => exact (Except.ok.inj attached).symm
  | cons parent rest ih =>
    rw [List.mapM_cons] at attached
    obtain ⟨child, first, attached⟩ := exists_of_bind attached
    obtain ⟨later, others, attached⟩ := exists_of_bind attached
    obtain rfl := Except.ok.inj attached
    rw [Row.eq_of_attach first, ih others]
    rfl

theorem received_of_loadRelation
    (ran : (loadRelation preload parents locale dialect).run.run before = (.ok children, after)) :
    ∃ records, Fetches locale dialect preload (parentKeys parents preload.localKey) before records
        after ∧
      children = parents.map (·.receive preload records) := by
  obtain ⟨related, middle, fetched, ran⟩ := exists_of_run_bind ran
  obtain ⟨records, fetches, rfl⟩ := fetches_of_fetchRelated fetched
  simp only [relatedTo_eq_handed] at ran
  rw [liftM_mapM fun parent : Row schema => Entity.attach parent preload.relation
    (Record.handed records (Entity.keyValue? parent preload.localKey))] at ran
  obtain ⟨attached, rfl⟩ := Prod.mk.inj ran
  exact ⟨records, fetches, received_of_attach attached⟩

theorem parentKeys_receive (parents : List (Row schema)) (preload : Preload) (records : List Record) :
    parentKeys (parents.map (·.receive preload records)) = parentKeys parents := by
  funext column
  rw [parentKeys, List.filterMap_map]
  rfl

theorem FetchesAll.of_received {records : List Record} {replies : List (List Record)}
    (fetches : FetchesAll locale dialect (parents.map (·.receive preload records)) preloads before
      replies after) : FetchesAll locale dialect parents preloads before replies after := by
  induction fetches with
  | done session => exact .done session
  | next fetches _ ih =>
    rw [parentKeys_receive] at fetches
    exact .next fetches ih

theorem received_of_loadRelations
    (ran : (loadRelations preloads parents locale dialect).run.run before = (.ok children, after)) :
    ∃ replies, FetchesAll locale dialect parents preloads before replies after ∧
      children = parents.map (·.receiveAll (preloads.zip replies)) := by
  induction preloads generalizing parents before with
  | nil =>
    obtain ⟨rfl, rfl⟩ := eq_of_run_pure ran
    exact ⟨[], .done _, (List.map_id _).symm⟩
  | cons preload preloads ih =>
    obtain ⟨served, middle, first, ran⟩ := exists_of_run_bind ran
    obtain ⟨records, fetches, rfl⟩ := received_of_loadRelation first
    -- the later preloads are loaded for parents that have been handed records, under the same keys
    obtain ⟨replies, rest, rfl⟩ := ih ran
    refine ⟨records :: replies, .next fetches rest.of_received, ?_⟩
    rw [List.map_map]
    rfl

/-- The rows of each relation go to the parents whose key has their text, in the order of the reply,
all of them to every such parent, and lose nothing but the column of the key. A parent whose key is
null gets none of them if and only if none has an empty key. -/
theorem related_rows_go_to_their_parents
    (ran : (loadRelations preloads parents locale dialect).run.run before = (.ok children, after)) :
    ∃ replies, FetchesAll locale dialect parents preloads before replies after ∧
      children = parents.map (·.receiveAll (preloads.zip replies)) ∧
      ∀ earlier preload records later,
        preloads.zip replies = earlier ++ (preload, records) :: later →
        (∀ load ∈ later, load.1.relation ≠ preload.relation) →
        List.Forall₂ (·.Receives · preload records) parents children ∧
        (∀ key ∈ parentKeys parents preload.localKey, key.isNull = false) ∧
        ∀ record ∈ records, ∀ column, (record.erase preloadKey).get? column =
          if column = preloadKey then none else record.get? column := by
  obtain ⟨replies, fetches, rfl⟩ := received_of_loadRelations ran
  refine ⟨replies, fetches, rfl, ?_⟩
  intro earlier preload records later split last
  refine ⟨?_, fun key asked => isNull_of_mem_parentKeys asked, ?_⟩
  · rw [split, List.forall₂_map_right_iff, List.forall₂_same]
    intro parent _
    exact parent.receives_receiveAll last
  · intro record _ column
    exact record.get?_erase preloadKey column

/-- Users with a reference that may be missing, by which notes belong to them. -/
def referringSchema : Schema :=
  ⟨"users", .i64, "id", ["id", "ref"], none, some ["notes"], [("id", .id), ("ref", .optionalText)]⟩

def referring (id : Int64) (ref : Value) : Row referringSchema := ⟨id, [("ref", ref)], .empty⟩

def notes : Preload := ⟨"notes", "notes", "user_ref", "ref", none, false, none⟩

/-- A session whose backend finds one note. -/
def noted (ref : String) : Session :=
  { Session.fresh with
    exchange := { Exchange.silent with
      replies := [{ Reply.empty with
        rows := [[("id", .bigint 7), (preloadKey, .text ref)]] }] } }

theorem related_rows_go_to_their_parents_of_note :
    ∃ first second after,
      (loadRelations [notes] [referring 1 (.text "a"), referring 2 .null] "en" .sqlite).run.run
        (noted "a") = (.ok [first, second], after) ∧
      first.attached.get? "notes" = some [.ofList [("id", .int 7)]] ∧
      second.attached.get? "notes" = some [] := by
  have answered : ((loadRelations [notes] [referring 1 (.text "a"), referring 2 .null] "en"
      .sqlite).run.run (noted "a")).1.isOk := by
    decide +kernel
  rcases ran : (loadRelations [notes] [referring 1 (.text "a"), referring 2 .null] "en"
      .sqlite).run.run (noted "a") with ⟨error | children, after⟩
  · rw [ran] at answered
    contradiction
  obtain ⟨replies, fetches, _, each⟩ := related_rows_go_to_their_parents ran
  cases fetches with
  | next fetches rest =>
    cases rest
    cases fetches with
    | unasked keyless => cases keyless
    | asked _ _ decoded =>
      obtain rfl := Except.ok.inj decoded
      obtain ⟨received, _⟩ := each [] notes _ [] rfl nofun
      cases received with
      | cons first rest =>
        cases rest with
        | cons second rest =>
          cases rest
          exact ⟨_, _, after, rfl, first.handed, second.handed⟩

def emptyKeyRun : Except DataError (List (Row referringSchema)) × Session :=
  (loadRelations [notes] [referring 1 (.text ""), referring 2 .null] "en" .sqlite).run.run (noted "")

def emptyKeyEvents : List Event :=
  [.statement "SELECT notes.*, user_ref AS sift_preload_key FROM notes WHERE user_ref IN (?)"
    [.text ""]]

/-- One user has an empty reference and the other has none. Only the empty one is asked for, and the
note that is found goes to both. -/
theorem note_of_empty_key_reaches_parent_without_key :
    (referring 2 .null).keyValue? "ref" = some .null ∧
    (∀ records, Record.deserved records ((referring 2 .null).keyValue? "ref") = []) ∧
    (emptyKeyRun.1.map fun children => children.map fun child =>
      (child.attached.get? "notes").map List.length) = .ok [some 1, some 1] ∧
    emptyKeyRun.2.exchange.log = emptyKeyEvents := by
  have ended : (emptyKeyRun.1.map fun children => children.map fun child =>
      (child.attached.get? "notes").map List.length, emptyKeyRun.2.exchange.log) =
        (.ok [some 1, some 1], emptyKeyEvents) := by
    decide +kernel
  obtain ⟨answered, logged⟩ := Prod.mk.inj ended
  exact ⟨rfl, Record.deserved_null, answered, logged⟩

end Engine

end DataAccess
