import DataAccess.Settings.EnvFile
import DataAccess.Settings.Readers
import DataAccess.Yaml.Subset

/-! Loading settings with the readers of this library. -/
namespace DataAccess

def Readers.subset : Readers := ⟨Yaml.subset, EnvFile.extend⟩

namespace Settings

def ofYaml (text : String) : Except SettingsError Settings := ofDocument Yaml.subset text

def load (directory : Directory) (environment : Environment) (profile : String) :
    Except SettingsError Settings :=
  Readers.subset.load directory.find? environment profile

end Settings

end DataAccess
