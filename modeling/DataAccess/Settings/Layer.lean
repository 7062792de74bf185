import DataAccess.Settings.Basic
import DataAccess.Text.Blank
import DataAccess.Yaml.Reader

/-! Layers of settings. A document of YAML sets some of the settings under its key `data`, and what
it sets replaces what was set before. A key without a value sets nothing, unknown keys are ignored,
and a size of zero is refused once the whole document has been read. -/
namespace DataAccess

/-- The settings that one source sets. -/
structure Layer where
  defaultPerPage : Option UInt64
  maxPerPage : Option UInt64
  defaultSort : Option String
  fallbackLocale : Option String
  dialect : Option Dialect

namespace Layer

def empty : Layer := ⟨none, none, none, none, none⟩

variable (yaml : Yaml.Reader)

/-- Read the part of a document that sets settings. -/
def ofEntries? (entries : List (String × yaml.Node)) : Option Layer := do
  let defaultPerPage ← yaml.optional? yaml.word? (← yaml.field? entries "default-per-page")
  let maxPerPage ← yaml.optional? yaml.word? (← yaml.field? entries "max-per-page")
  let defaultSort ← yaml.optional? yaml.text? (← yaml.field? entries "default-sort")
  let fallbackLocale ← yaml.optional? yaml.text? (← yaml.field? entries "fallback-locale")
  let dialect ← yaml.optional? (fun node => (yaml.variant? node).bind Dialect.ofName?)
    (← yaml.field? entries "dialect")
  return ⟨defaultPerPage, maxPerPage, defaultSort, fallbackLocale, dialect⟩

/-- Read a document. A blank one sets nothing, nor does one without the part. -/
def ofText? (text : String) : Option Layer :=
  if (Text.trimChars text.toList).isEmpty then some empty
  else do
    let root ← yaml.root? text
    let part ← yaml.optional? yaml.entries? (← yaml.field? (← yaml.entries? root) "data")
    ofEntries? yaml (part.getD [])

/-- The layer, if its sizes are positive. -/
def validate (layer : Layer) : Except SettingsError Layer := do
  if let some size := layer.defaultPerPage then
    let _ ← Settings.positive "default-per-page" size
  if let some size := layer.maxPerPage then
    let _ ← Settings.positive "max-per-page" size
  return layer

def read (text : String) : Except SettingsError Layer :=
  match ofText? yaml text with
  | some layer => layer.validate
  | none => .error .load

end Layer

namespace Settings

def overlay (settings : Settings) (layer : Layer) : Settings where
  defaultPerPage := layer.defaultPerPage.getD settings.defaultPerPage
  maxPerPage := layer.maxPerPage.orElse fun _ => settings.maxPerPage
  defaultSort := layer.defaultSort.getD settings.defaultSort
  fallbackLocale := layer.fallbackLocale.getD settings.fallbackLocale
  dialect := layer.dialect.getD settings.dialect

/-- The settings that a document gives over the defaults. -/
def ofDocument (yaml : Yaml.Reader) (text : String) : Except SettingsError Settings := do
  return default.overlay (← Layer.read yaml text)

end Settings

end DataAccess
