import DataAccess.Settings.Directory
import DataAccess.Settings.Layer
import DataAccess.Settings.Variables

/-! Loading settings. Over the defaults come the common document, the document of the profile, the
file of variables, and the variables of the process, each over those before it. -/
namespace DataAccess

/-- What reads the files: a reader of documents, and what the text of a file of variables makes of
an environment. -/
structure Readers where
  yaml : Yaml.Reader
  extend : Environment → String → Environment

namespace Readers

variable (readers : Readers)

/-- Lay a document over settings, if it is there. A directory in its place cannot be read. -/
def overlayFile (settings : Settings) : Option FileEntry → Except SettingsError Settings
  | none => .ok settings
  | some .directory => .error .load
  | some (.file text) => do return settings.overlay (← Layer.read readers.yaml text)

def extendFrom (environment : Environment) : Option FileEntry → Environment
  | some (.file text) => readers.extend environment text
  | _ => environment

/-- Load the settings of a profile from files, given by their paths. A variable of the process may
name another profile. -/
def load (files : String → Option FileEntry) (environment : Environment) (profile : String) :
    Except SettingsError Settings := do
  let profile := (environment "SIFT_PROFILE").getD profile
  let settings ← readers.overlayFile .default (files "application.yaml")
  let settings ← readers.overlayFile settings (files ("application-" ++ profile ++ ".yaml"))
  let (result, settings) :=
    settings.withVariables (readers.extendFrom environment (files ".env"))
  result
  return settings

end Readers

end DataAccess
