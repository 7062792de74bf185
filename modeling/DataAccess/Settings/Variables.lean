import DataAccess.Number.Unsigned
import DataAccess.Settings.Basic
import DataAccess.Text.Blank

/-! Settings from environment variables. The variables are read in a fixed order, and when one
cannot be read, those before it have been set already. -/
namespace DataAccess

/-- The variables of an environment, by name. -/
abbrev Environment := String → Option String

/-- A change of settings that may fail on the way. -/
abbrev SettingsUpdate := ExceptT SettingsError (StateM Settings)

namespace Settings

/-- Read a page size. Blanks around it do not count. -/
def readSize (name text : String) : Except SettingsError UInt64 :=
  match unsigned? (Text.trimChars text.toList) with
  | some size => positive name size
  | none => .error (.mismatch name .unsignedInteger)

/-- Read a dialect, in letters of either case. -/
def readDialect (name text : String) : Except SettingsError Dialect :=
  match Dialect.ofName? (String.ofList (text.toList.map Char.toLower)) with
  | some dialect => .ok dialect
  | none => .error (.mismatch name .dialectName)

def setFrom {α : Type} (environment : Environment) (name : String)
    (read : String → String → Except SettingsError α) (change : α → Settings → Settings) :
    SettingsUpdate Unit :=
  match environment name with
  | some text => do
    let value ← read name text
    modify (change value)
  | none => return ()

def applyVariables (environment : Environment) : SettingsUpdate Unit := do
  setFrom environment "DATA_DEFAULT_PER_PAGE" readSize
    fun size settings => { settings with defaultPerPage := size }
  setFrom environment "DATA_MAX_PER_PAGE" readSize
    fun size settings => { settings with maxPerPage := some size }
  setFrom environment "DATA_DEFAULT_SORT" (fun _ => .ok)
    fun sort settings => { settings with defaultSort := sort }
  setFrom environment "DATA_FALLBACK_LOCALE" (fun _ => .ok)
    fun locale settings => { settings with fallbackLocale := locale }
  setFrom environment "DATA_DIALECT" readDialect
    fun dialect settings => { settings with dialect }

/-- Set every setting that has a variable: the result, and the settings then. -/
def withVariables (settings : Settings) (environment : Environment) :
    Except SettingsError Unit × Settings :=
  (applyVariables environment).run.run settings

end Settings

end DataAccess
