import DataAccess.Engine.Preloading
import DataAccess.Engine.Transaction
import DataAccess.Plan.Reading

/-! Repositories. A repository plans the statements of one entity and sends them, each call through
a connection of the pool or inside a transaction it is bound to. Planning comes first, so a mapping
that cannot work fails before the backend is reached. -/
namespace DataAccess

structure Repository (schema : Schema) where
  spec : Spec
  settings : Settings
  binding : Binding

/-- What a single read may change. -/
structure ReadOptions where
  /-- replaces the specification of the repository -/
  spec : Option Spec
  /-- whether deleted rows are read -/
  unscoped : Bool

def ReadOptions.default : ReadOptions := ⟨none, false⟩

instance : Inhabited ReadOptions := ⟨.default⟩

namespace Repository

variable {schema : Schema} (repository : Repository schema)

def join (handle : TransactionHandle) : Repository schema :=
  { repository with binding := .transaction handle }

def inTransaction : Bool :=
  match repository.binding with
  | .transaction _ => true
  | .pool => false

def specFor (options : ReadOptions) : Spec := options.spec.getD repository.spec

def planner (options : ReadOptions) : Except DataError (Planner schema) :=
  Planner.make schema (repository.specFor options) repository.settings options.unscoped

def locale : Engine String := Engine.locale repository.settings.fallbackLocale

/-- The part of a call that reaches the backend. -/
def exchange (work : Engine α) : Engine α :=
  Engine.guarded (Engine.connected repository.binding work)

def execute (statement : Statement) : Engine UInt64 :=
  repository.exchange (Engine.execute statement)

/-- Read rows and load their relations. -/
def load (statement : Statement) (preloads : List Preload) (locale : String) :
    Engine (List (Row schema)) :=
  Engine.load statement preloads locale repository.settings.dialect

/-- Open a transaction; transactions do not nest. -/
def beginTransaction : Engine TransactionHandle := do
  if repository.inTransaction then throw (.configuration .nestedTransaction)
  Engine.beginTransaction

def transaction (work : TransactionHandle → Engine α) : Engine α := do
  let handle ← repository.beginTransaction
  Engine.endTransaction handle (← Engine.outcome (work handle))

/-- Run work in the transaction of the repository, or in one of its own. -/
def atomically (work : Repository schema → Engine α) : Engine α :=
  match repository.binding with
  | .transaction _ => work repository
  | .pool => Engine.transaction fun handle => work (repository.join handle)

end Repository

end DataAccess
