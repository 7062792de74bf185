import DataAccess.Sql.Dialect

/-! The settings that planning reads, and the errors of loading them. -/
namespace DataAccess

structure Settings where
  defaultPerPage : UInt64
  maxPerPage : Option UInt64
  defaultSort : String
  fallbackLocale : String
  dialect : Dialect
deriving DecidableEq

namespace Settings

def builtinPerPage : UInt64 := 10

def default : Settings := ⟨builtinPerPage, none, "created_at", "en", .generic⟩

instance : Inhabited Settings := ⟨default⟩

end Settings

inductive SettingKind where
  | unsignedInteger
  | positiveInteger
  | dialectName
deriving DecidableEq

def SettingKind.name : SettingKind → String
  | unsignedInteger => "unsigned integer"
  | positiveInteger => "positive integer"
  | dialectName => "one of generic, sqlite, mysql, postgres"

inductive SettingsError where
  /-- a file cannot be read, or is no valid document -/
  | load
  /-- the value of a key is not of the expected kind -/
  | mismatch (key : String) (expected : SettingKind)
deriving DecidableEq

/-- The message of a mismatch; the text of a loading error is the reader's own. -/
def SettingsError.message? : SettingsError → Option String
  | load => none
  | mismatch key expected =>
    some ("Config type mismatch for '" ++ key ++ "': expected " ++ expected.name)

/-- A page size of zero would list nothing. -/
def Settings.positive (key : String) (size : UInt64) : Except SettingsError UInt64 :=
  if size = 0 then .error (.mismatch key .positiveInteger) else .ok size

end DataAccess
