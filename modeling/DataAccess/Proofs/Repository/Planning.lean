import DataAccess.Proofs.Engine.Conversation
import DataAccess.Proofs.Plan.Parts
import DataAccess.Scenario.Operation

/-! Every operation of a repository plans its statements before its first exchange. Two kinds of
statements are planned later: those of the relations that a read loads, and the insertions of all
rows but the first when many are created. -/
namespace DataAccess

namespace Engine.Conversation

variable {faults : DataError → Prop} {schema : Schema}

theorem fetchRelated {preload : Preload} {keys : List Value} {locale : String}
    {dialect : Dialect} (known : Within faults (preload.statement keys locale dialect)) :
    Conversation faults (Engine.fetchRelated preload keys locale dialect) := by
  unfold Engine.fetchRelated
  split
  · exact .ok []
  · refine (value known).bind fun statement => (fetchRows statement).bind fun rows => ?_
    have decoded : Within faults (rows.mapM ResultRow.decode) :=
      .mapM fun row _ => row.decodeFrom_within 0 Dict.empty
    exact (value decoded).bind fun records => .ok _

theorem loadRelation {preload : Preload} {locale : String} {dialect : Dialect}
    (known : ∀ keys, Within faults (preload.statement keys locale dialect))
    (parents : List (Row schema)) :
    Conversation faults (Engine.loadRelation preload parents locale dialect) :=
  (fetchRelated (known _)).bind fun _ =>
    mapM (fun parent => value (Row.attach_within parent preload.relation _)) parents

theorem loadRelations {preloads : List Preload} {locale : String} {dialect : Dialect}
    (known : ∀ preload ∈ preloads, ∀ keys,
      Within faults (preload.statement keys locale dialect))
    (parents : List (Row schema)) :
    Conversation faults (Engine.loadRelations preloads parents locale dialect) := by
  induction preloads generalizing parents with
  | nil => exact .ok parents
  | cons preload rest ih =>
    unfold Engine.loadRelations
    rw [List.foldlM_cons]
    refine (loadRelation (known preload List.mem_cons_self) parents).bind fun parents => ?_
    exact ih (fun preload' member => known preload' (List.mem_cons_of_mem preload member)) parents

end Engine.Conversation

namespace Repository

variable {schema : Schema}

/-- Plan the insertion of a row. -/
def plannedInsert (repository : Repository schema) (row : Row schema) : Except DataError Write := do
  (← repository.planner .default).insert row

end Repository

namespace Operation

variable {schema : Schema}

/-- The relations that an operation loads with the rows it reads. -/
def preloads (repository : Repository schema) : Operation schema → List Preload
  | findAll _ _ options => (repository.specFor options).preloadsFor true
  | findPage _ _ options => (repository.specFor options).preloadsFor true
  | list _ _ options => (repository.specFor options).preloadsFor true
  | findOne _ options => (repository.specFor options).preloadsFor false
  | findById _ options => (repository.specFor options).preloadsFor false
  | findByIds _ options => (repository.specFor options).preloadsFor false
  | findOrCreate _ _ options => (repository.specFor options).preloadsFor false
  | updateById _ _ => repository.spec.preloadsFor false
  | createAndRead _ => repository.spec.preloadsFor false
  | upsertAndRead _ _ _ => repository.spec.preloadsFor false
  | _ => []

/-- The rows whose insertion an operation plans after it has sent something. -/
def laterRows : Operation schema → List (Row schema)
  | createMany rows => rows.tail
  | _ => []

/-- The faults that an operation may find after its first exchange. -/
def LateFault (repository : Repository schema) (operation : Operation schema)
    (error : DataError) : Prop :=
  (∃ preload ∈ operation.preloads repository, ∃ keys locale,
    preload.statement keys locale repository.settings.dialect = .error error) ∨
  ∃ row ∈ operation.laterRows, repository.plannedInsert row = .error error

end Operation

namespace Repository

open Engine

variable {schema : Schema} {faults : DataError → Prop} (repository : Repository schema)

section Identity

variable {column : String}

theorem idCondition_within (named : schema.identityColumn = .ok column)
    (id : schema.idType.Carrier) : Within faults (schema.idCondition id) := by
  unfold Schema.idCondition
  rw [named]
  exact .ok _

theorem first_within (named : schema.identityColumn = .ok column) (planner : Planner schema)
    (condition : Option Condition) (locale : String) :
    Within faults (planner.first condition locale) := by
  unfold Planner.first
  rw [named]
  exact .ok _

theorem byId_within (named : schema.identityColumn = .ok column) (planner : Planner schema)
    (id : schema.idType.Carrier) (locale : String) :
    Within faults (planner.byId id locale) :=
  .bind (idCondition_within named id) fun condition =>
    first_within named planner (some condition) locale

theorem named_of_idSource {planner : Planner schema} {columns : List String} {row : Row schema}
    {source : IdSource} (found : planner.idSource columns row = .ok source) :
    ∃ column, schema.identityColumn = .ok column := by
  obtain ⟨column, named, _⟩ := exists_of_bind found
  exact ⟨column, named⟩

theorem named_of_insert {planner : Planner schema} {row : Row schema} {write : Write}
    (planned : planner.insert row = .ok write) :
    ∃ column, schema.identityColumn = .ok column := by
  obtain ⟨_, _, planned⟩ := exists_of_bind planned
  obtain ⟨_, source, _⟩ := exists_of_bind planned
  exact named_of_idSource source

theorem named_of_findOrCreate {planner : Planner schema} {condition : Option Condition}
    {row : Row schema} {write : Write} (planned : planner.findOrCreate condition row = .ok write) :
    ∃ column, schema.identityColumn = .ok column := by
  obtain ⟨_, _, planned⟩ := exists_of_bind planned
  obtain ⟨_, source, _⟩ := exists_of_bind planned
  exact named_of_idSource source

end Identity

/-- Whether every fault of the statements of preloads is known. -/
def PreloadsWithin (faults : DataError → Prop) (preloads : List Preload) : Prop :=
  ∀ preload ∈ preloads, ∀ keys locale,
    Within faults (preload.statement keys locale repository.settings.dialect)

theorem conversation_load {preloads : List Preload}
    (known : repository.PreloadsWithin faults preloads) (statement : Statement)
    (locale : String) : Conversation faults (repository.load statement preloads locale) := by
  refine (Conversation.fetchRows statement).bind fun rows => ?_
  have read : Within faults (rows.mapM (·.toRow schema)) :=
    .mapM fun row _ => row.toRow_within schema
  refine (Conversation.value read).bind fun entities => ?_
  exact .loadRelations (fun preload member keys => known preload member keys locale) entities

theorem exchanges_loadFirst {options : ReadOptions}
    (known : repository.PreloadsWithin faults ((repository.specFor options).preloadsFor false))
    (statement : Statement) (locale : String) :
    Exchanges faults repository.binding (repository.loadFirst statement options locale) :=
  .exchange ((repository.conversation_load known statement locale).bind fun _ => .ok _)

theorem exchanges_execute (statement : Statement) :
    Exchanges faults repository.binding (repository.execute statement) :=
  .exchange (.execute statement)

theorem exchanges_write (write : Write) :
    Exchanges faults repository.binding (repository.write write) :=
  .bind (.exchange (.writeRow write)) fun carried => .value (schema.readId_within carried)

theorem planned_findAll (condition : Option Condition) (request : ListingRequest)
    {options : ReadOptions}
    (known : repository.PreloadsWithin faults ((repository.specFor options).preloadsFor true)) :
    Planned faults repository.binding (repository.findAll condition request options) := by
  refine .locale _ fun locale => .plan _ fun planner _ => .exchanges (.exchange ?_)
  exact repository.conversation_load known _ locale

theorem planned_findPage (condition : Option Condition) (request : ListingRequest)
    {options : ReadOptions}
    (known : repository.PreloadsWithin faults ((repository.specFor options).preloadsFor true)) :
    Planned faults repository.binding (repository.findPage condition request options) := by
  refine .locale _ fun locale => .plan _ fun planner _ => .exchanges (.exchange ?_)
  have rows := repository.conversation_load known
    (planner.listing condition request locale true).select locale
  refine .bind (.fetchCount _) fun total => rows.bind fun _ => .ok _

theorem planned_list (condition : Option Condition) (request : ListingRequest)
    {options : ReadOptions}
    (known : repository.PreloadsWithin faults ((repository.specFor options).preloadsFor true)) :
    Planned faults repository.binding (repository.list condition request options) := by
  unfold Repository.list
  dsimp only
  split
  · exact repository.planned_findPage _ request known
  · exact .bind (repository.planned_findAll _ request known) fun rows => .value (.ok _)

theorem planned_findOne (condition : Condition) {options : ReadOptions}
    (known : repository.PreloadsWithin faults ((repository.specFor options).preloadsFor false)) :
    Planned faults repository.binding (repository.findOne condition options) := by
  refine .locale _ fun locale => .plan _ fun planner _ => .plan _ fun statement _ => ?_
  exact .exchanges (repository.exchanges_loadFirst known statement locale)

theorem planned_findById (id : schema.idType.Carrier) {options : ReadOptions}
    (known : repository.PreloadsWithin faults ((repository.specFor options).preloadsFor false)) :
    Planned faults repository.binding (repository.findById id options) := by
  refine .locale _ fun locale => .plan _ fun planner _ => .plan _ fun statement _ => ?_
  exact .exchanges (repository.exchanges_loadFirst known statement locale)

theorem planned_findByIds (ids : List schema.idType.Carrier) {options : ReadOptions}
    (known : repository.PreloadsWithin faults ((repository.specFor options).preloadsFor false)) :
    Planned faults repository.binding (repository.findByIds ids options) := by
  unfold Repository.findByIds
  split
  · exact .exchanges (.value (.ok []))
  · refine .locale _ fun locale => .plan _ fun planner _ => .plan _ fun statement _ => ?_
    exact .exchanges (.exchange (repository.conversation_load known statement locale))

theorem planned_count (condition : Option Condition) :
    Planned faults repository.binding (repository.count condition) :=
  .plan _ fun _ _ => .exchanges (.exchange (.fetchCount _))

theorem planned_existsWhere (condition : Condition) :
    Planned faults repository.binding (repository.existsWhere condition) :=
  .bind (repository.planned_count (some condition)) fun _ => .value (.ok _)

theorem planned_existsById (id : schema.idType.Carrier) :
    Planned faults repository.binding (repository.existsById id) :=
  .plan _ fun _ _ => .plan _ fun condition _ => repository.planned_existsWhere condition

theorem planned_pluck (column : String) (condition : Option Condition) :
    Planned faults repository.binding (repository.pluck column condition) := by
  refine .plan _ fun planner _ => .plan _ fun statement _ => .exchanges (.exchange ?_)
  refine .bind (.fetchRows statement) fun rows => .value ?_
  exact .mapM fun row _ => row.decodeAt_within 0

theorem planned_create (row : Row schema) :
    Planned faults repository.binding (repository.create row) :=
  .plan _ fun _ _ => .plan _ fun write _ => .exchanges (repository.exchanges_write write)

theorem planned_upsert (row : Row schema) (conflict update : List String) :
    Planned faults repository.binding (repository.upsert row conflict update) :=
  .plan _ fun _ _ => .plan _ fun write _ => .exchanges (repository.exchanges_write write)

theorem planned_update (condition : Condition) (changes : Changes) :
    Planned faults repository.binding (repository.update condition changes) :=
  .plan _ fun _ _ => .plan _ fun update _ => .exchanges (repository.exchanges_execute update)

theorem planned_delete (condition : Condition) :
    Planned faults repository.binding (repository.delete condition) :=
  .plan _ fun _ _ => .exchanges (repository.exchanges_execute _)

theorem planned_purge (condition : Condition) :
    Planned faults repository.binding (repository.purge condition) :=
  .plan _ fun _ _ => .exchanges (repository.exchanges_execute _)

theorem planned_deleteById (id : schema.idType.Carrier) :
    Planned faults repository.binding (repository.deleteById id) :=
  .plan _ fun _ _ => .plan _ fun _ _ => .exchanges
    ((repository.exchanges_execute _).bind fun _ => .value (.ok _))

theorem planned_deleteByIds (ids : List schema.idType.Carrier) :
    Planned faults repository.binding (repository.deleteByIds ids) := by
  unfold Repository.deleteByIds
  split
  · exact .exchanges (.value (.ok 0))
  · exact .plan _ fun _ _ => .plan _ fun _ _ => .exchanges (repository.exchanges_execute _)

theorem planned_restore (condition : Condition) :
    Planned faults repository.binding (repository.restore condition) :=
  .plan _ fun _ _ => .plan _ fun restore _ => .exchanges (repository.exchanges_execute restore)

theorem planned_restoreById (id : schema.idType.Carrier) :
    Planned faults repository.binding (repository.restoreById id) :=
  .plan _ fun _ _ => .plan _ fun _ _ => .plan _ fun restore _ => .exchanges
    ((repository.exchanges_execute restore).bind fun _ => .value (.ok _))

theorem planned_updateById (id : schema.idType.Carrier) (changes : Changes)
    (known : repository.PreloadsWithin faults (repository.spec.preloadsFor false)) :
    Planned faults repository.binding (repository.updateById id changes) := by
  refine .plan _ fun planner _ => .plan _ fun condition _ => .plan _ fun update _ => ?_
  refine .locale _ fun locale => .plan _ fun select _ => .exchanges (.exchange ?_)
  refine .bind (.execute update) fun _ => ?_
  exact (repository.conversation_load known select locale).bind fun rows => .ok _

/-- Once a planner has been made and the identity column accepted, reading a row by its identity
finds no other fault of the mapping. -/
theorem exchanges_findById {options : ReadOptions} {planner : Planner schema} {column : String}
    (made : repository.planner options = .ok planner)
    (named : schema.identityColumn = .ok column)
    (known : repository.PreloadsWithin faults ((repository.specFor options).preloadsFor false))
    (id : schema.idType.Carrier) :
    Exchanges faults repository.binding (repository.findById id options) := by
  unfold Repository.findById
  rw [made]
  refine .bind (.locale _) fun locale => .bind (.value (.ok planner)) fun planner => ?_
  refine .bind (.value (byId_within named planner id locale)) fun statement => ?_
  exact repository.exchanges_loadFirst known statement locale

theorem exchanges_stored {planner : Planner schema} {column : String}
    (made : repository.planner .default = .ok planner)
    (named : schema.identityColumn = .ok column)
    (known : repository.PreloadsWithin faults (repository.spec.preloadsFor false))
    (id : schema.idType.Carrier) :
    Exchanges faults repository.binding (repository.stored id) := by
  refine .bind (repository.exchanges_findById made named known id) fun found => ?_
  cases found with
  | none => exact .value (.error rfl)
  | some row => exact .value (.ok row)

theorem planned_createAndRead (row : Row schema)
    (known : repository.PreloadsWithin faults (repository.spec.preloadsFor false)) :
    Planned faults repository.binding (repository.createAndRead row) := by
  unfold Repository.createAndRead Repository.create
  simp only [bind_assoc]
  refine .plan _ fun planner made => .plan _ fun write planned => .exchanges ?_
  obtain ⟨column, named⟩ := named_of_insert planned
  exact (repository.exchanges_write write).bind fun id =>
    repository.exchanges_stored made named known id

theorem planned_upsertAndRead (row : Row schema) (conflict update : List String)
    (known : repository.PreloadsWithin faults (repository.spec.preloadsFor false)) :
    Planned faults repository.binding (repository.upsertAndRead row conflict update) := by
  unfold Repository.upsertAndRead Repository.upsert
  simp only [bind_assoc]
  refine .plan _ fun planner made => .plan _ fun write planned => .exchanges ?_
  obtain ⟨column, named, _⟩ := exists_of_bind planned
  exact (repository.exchanges_write write).bind fun id =>
    repository.exchanges_stored made named known id

theorem create_eq (row : Row schema) :
    repository.create row =
      (liftM (repository.plannedInsert row) : Engine Write) >>= repository.write := by
  unfold Repository.create Repository.plannedInsert
  cases repository.planner .default with
  | error error => rfl
  | ok planner => rfl

theorem exchanges_create {row : Row schema}
    (known : Within faults (repository.plannedInsert row)) :
    Exchanges faults repository.binding (repository.create row) := by
  rw [create_eq]
  exact .bind (.value known) repository.exchanges_write

theorem exchanges_createEach {rows : List (Row schema)}
    (known : ∀ row ∈ rows, Within faults (repository.plannedInsert row)) :
    Exchanges faults repository.binding (rows.mapM repository.create) := by
  induction rows with
  | nil => exact .value (.ok [])
  | cons row rest ih =>
    rw [List.mapM_cons]
    have first := repository.exchanges_create (known row List.mem_cons_self)
    have following := ih fun row' member => known row' (List.mem_cons_of_mem row member)
    exact first.bind fun _ => following.bind fun _ => .value (.ok _)

/-- Of rows that are created one after the other, the first is planned before anything is sent. -/
theorem planned_createEach {rows : List (Row schema)}
    (known : ∀ row ∈ rows.tail, Within faults (repository.plannedInsert row)) :
    Planned faults repository.binding (rows.mapM repository.create) := by
  cases rows with
  | nil => exact .exchanges (.value (.ok []))
  | cons first rest =>
    rw [List.mapM_cons]
    have following := repository.exchanges_createEach known
    exact (repository.planned_create first).bind fun _ =>
      following.bind fun _ => .value (.ok _)

/-- Work that is planned over any transaction is planned over the pool, in a transaction of its
own. -/
theorem planned_atomically {α : Type} {work : Repository schema → Engine α}
    (planned : ∀ binding, Planned faults binding (work { repository with binding })) :
    Planned faults repository.binding (repository.atomically work) := by
  obtain ⟨spec, settings, binding⟩ := repository
  cases binding with
  | pool => exact .transaction fun handle => planned (.transaction handle)
  | transaction handle => exact planned (.transaction handle)

theorem planned_createMany {rows : List (Row schema)}
    (known : ∀ row ∈ rows.tail, Within faults (repository.plannedInsert row)) :
    Planned faults repository.binding (repository.createMany rows) := by
  unfold Repository.createMany
  split
  · exact .exchanges (.value (.ok []))
  · exact repository.planned_atomically fun binding =>
      planned_createEach { repository with binding } known

theorem planned_findOrCreateIn (condition : Condition) (row : Row schema) {options : ReadOptions}
    (known : repository.PreloadsWithin faults ((repository.specFor options).preloadsFor false)) :
    Planned faults repository.binding (repository.findOrCreateIn condition row options) := by
  refine .locale _ fun locale => .plan _ fun planner _ => .plan _ fun insert planned => ?_
  obtain ⟨column, named⟩ := named_of_findOrCreate planned
  refine .exchanges (.exchange (.bind (.writeIfAbsent insert) fun written => ?_))
  have read {next : List (Row schema) → Engine (Row schema × Bool)}
      (judged : ∀ rows, Conversation faults (next rows)) (lookup : Condition) :
      Conversation faults (do
        let select ← (planner.first (some lookup) locale : Except DataError Statement)
        let rows ←
          repository.load select ((repository.specFor options).preloadsFor false) locale
        next rows) := by
    refine .bind (.value (first_within named planner _ locale)) fun select => ?_
    exact (repository.conversation_load known select locale).bind judged
  cases written with
  | none =>
    refine read (fun rows => ?_) condition
    split
    · exact .ok _
    · contradiction
    · exact .error rfl
  | some carried =>
    refine .bind (.value (schema.readId_within carried)) fun id => ?_
    refine .bind (.value (idCondition_within named id)) fun owned => ?_
    refine read (fun rows => ?_) _
    split
    · exact .ok _
    · exact .error rfl
    · contradiction

theorem planned_findOrCreate (condition : Condition) (row : Row schema) {options : ReadOptions}
    (known : repository.PreloadsWithin faults ((repository.specFor options).preloadsFor false)) :
    Planned faults repository.binding (repository.findOrCreate condition row options) :=
  repository.planned_atomically fun binding =>
    planned_findOrCreateIn { repository with binding } condition row known

/-- Every operation plans before it exchanges anything, up to the faults that it may find late. -/
theorem planned_perform (operation : Operation schema) :
    Planned (operation.LateFault repository) repository.binding (repository.perform operation) := by
  have known : repository.PreloadsWithin (operation.LateFault repository)
      (operation.preloads repository) :=
    fun preload member keys locale error failed _ => .inl ⟨preload, member, keys, locale, failed⟩
  have inserted : ∀ row ∈ operation.laterRows,
      Within (operation.LateFault repository) (repository.plannedInsert row) :=
    fun row member error failed _ => .inr ⟨row, member, failed⟩
  cases operation with
  | compile request options => exact .exchanges (.value (.ok _))
  | create row => exact .map (repository.planned_create row) _
  | createMany rows => exact .map (repository.planned_createMany inserted) _
  | update condition changes => exact .map (repository.planned_update condition changes) _
  | updateById id changes => exact .map (repository.planned_updateById id changes known) _
  | findAll condition request options =>
    exact .map (repository.planned_findAll condition request known) _
  | findPage condition request options =>
    exact .map (repository.planned_findPage condition request known) _
  | findOne condition options => exact .map (repository.planned_findOne condition known) _
  | findById id options => exact .map (repository.planned_findById id known) _
  | findByIds ids options => exact .map (repository.planned_findByIds ids known) _
  | delete condition => exact .map (repository.planned_delete condition) _
  | deleteById id => exact .map (repository.planned_deleteById id) _
  | deleteByIds ids => exact .map (repository.planned_deleteByIds ids) _
  | purge condition => exact .map (repository.planned_purge condition) _
  | count condition => exact .map (repository.planned_count condition) _
  | existsWhere condition => exact .map (repository.planned_existsWhere condition) _
  | existsById id => exact .map (repository.planned_existsById id) _
  | pluck column condition => exact .map (repository.planned_pluck column condition) _
  | upsert row conflict update =>
    exact .map (repository.planned_upsert row conflict update) _
  | findOrCreate condition row options =>
    exact .map (repository.planned_findOrCreate condition row known) _
  | restore condition => exact .map (repository.planned_restore condition) _
  | restoreById id => exact .map (repository.planned_restoreById id) _
  | createAndRead row => exact .map (repository.planned_createAndRead row known) _
  | upsertAndRead row conflict update =>
    exact .map (repository.planned_upsertAndRead row conflict update known) _
  | list condition request options =>
    exact .map (repository.planned_list condition request known) _

end Repository

end DataAccess
