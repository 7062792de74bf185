import DataAccess.Proofs.Sequence
import DataAccess.Settings.Readers

/-! Settings that sources can give. Every source checks the sizes that it sets, so no page of loaded
settings is empty. A check that fails ends the loading, but what has been set before it stays, so the
invariant is one of the settings and not of the result. -/
namespace DataAccess

/-- An update keeps a property of the settings, whether it fails or not. -/
def SettingsUpdate.Preserves (kept : Settings → Prop) {α : Type} (update : SettingsUpdate α) : Prop :=
  ∀ settings, kept settings → kept (update.run.run settings).2

namespace SettingsUpdate.Preserves

variable {kept : Settings → Prop} {α β : Type}

theorem bind {update : SettingsUpdate α} {next : α → SettingsUpdate β}
    (first : Preserves kept update) (second : ∀ value, Preserves kept (next value)) :
    Preserves kept (update >>= next) := by
  intro settings held
  have here := first settings held
  rcases ran : update.run.run settings with ⟨error | value, later⟩
  · rw [run_bind_of_error ran]
    rwa [ran] at here
  · rw [run_bind_of_ok ran]
    rw [ran] at here
    exact second value later here

/-- A variable sets what can be read from it, and nothing if it is missing or cannot be read. -/
theorem setFrom (environment : Environment) (name : String)
    {read : String → String → Except SettingsError α} {change : α → Settings → Settings}
    (changes : ∀ text value settings, read name text = .ok value → kept settings →
      kept (change value settings)) :
    Preserves kept (Settings.setFrom environment name read change) := by
  intro settings held
  unfold Settings.setFrom
  cases environment name with
  | none => exact held
  | some text =>
    cases given : read name text with
    | error error =>
      simp only [given]
      exact held
    | ok value =>
      simp only [given]
      exact changes text value settings given held

end SettingsUpdate.Preserves

namespace Settings

/-- The settings that a document, a directory with an environment, or further variables give, with
any readers. -/
inductive Loaded : Settings → Prop
  | builtin : Loaded .default
  | document {yaml : Yaml.Reader} {text : String} {settings : Settings}
    (read : ofDocument yaml text = .ok settings) : Loaded settings
  | directory {readers : Readers} {files : String → Option FileEntry} {environment : Environment}
    {profile : String} {settings : Settings}
    (read : readers.load files environment profile = .ok settings) : Loaded settings
  | overlaid {environment : Environment} {before after : Settings} (loaded : Loaded before)
    (applied : before.withVariables environment = (.ok (), after)) : Loaded after

/-- No page of these settings is empty. -/
structure HasRows (settings : Settings) : Prop where
  perPage : settings.defaultPerPage ≠ 0
  maximum : ∀ size ∈ settings.maxPerPage, size ≠ 0

theorem ne_zero_of_positive {key : String} {size given : UInt64}
    (accepted : positive key given = .ok size) : size ≠ 0 := by
  unfold positive at accepted
  split at accepted
  · contradiction
  · obtain rfl := Except.ok.inj accepted
    assumption

theorem ne_zero_of_readSize {name text : String} {size : UInt64}
    (read : readSize name text = .ok size) : size ≠ 0 := by
  unfold readSize at read
  split at read
  · exact ne_zero_of_positive read
  · contradiction

theorem hasRows_default : Settings.default.HasRows := by
  constructor
  · decide
  · nofun

theorem preserves_applyVariables (environment : Environment) :
    SettingsUpdate.Preserves HasRows (applyVariables environment) := by
  unfold applyVariables
  refine .bind (.setFrom _ _ ?_) fun _ => .bind (.setFrom _ _ ?_) fun _ =>
    .bind (.setFrom _ _ ?_) fun _ => .bind (.setFrom _ _ ?_) fun _ => .setFrom _ _ ?_
  · intro text size settings read rows
    exact ⟨ne_zero_of_readSize read, rows.maximum⟩
  · intro text size settings read rows
    constructor
    · exact rows.perPage
    · rintro _ ⟨⟩
      exact ne_zero_of_readSize read
  -- the other variables leave the sizes alone
  all_goals
    intro text value settings _ rows
    exact ⟨rows.perPage, rows.maximum⟩

theorem HasRows.withVariables {settings : Settings} (rows : settings.HasRows)
    (environment : Environment) : (settings.withVariables environment).2.HasRows :=
  preserves_applyVariables environment settings rows

end Settings

/-- The sizes that a layer sets are not zero. -/
structure Layer.HasRows (layer : Layer) : Prop where
  perPage : ∀ size ∈ layer.defaultPerPage, size ≠ 0
  maximum : ∀ size ∈ layer.maxPerPage, size ≠ 0

theorem Layer.hasRows_of_validate {layer given : Layer} (valid : given.validate = .ok layer) :
    layer.HasRows := by
  have nonzero {key : String} {size : UInt64} {accepted : UInt64}
      (positive : Settings.positive key size = .ok accepted) : ∀ other ∈ some size, other ≠ 0 := by
    rintro _ ⟨⟩ rfl
    contradiction
  obtain ⟨perPage, maximum, sort, locale, dialect⟩ := given
  cases perPage with
  | none =>
    cases maximum with
    | none =>
      obtain rfl := Except.ok.inj valid
      exact ⟨nofun, nofun⟩
    | some most =>
      obtain ⟨_, positive, valid⟩ := exists_of_bind valid
      obtain rfl := Except.ok.inj valid
      exact ⟨nofun, nonzero positive⟩
  | some size =>
    obtain ⟨_, positive, valid⟩ := exists_of_bind valid
    cases maximum with
    | none =>
      obtain rfl := Except.ok.inj valid
      exact ⟨nonzero positive, nofun⟩
    | some most =>
      obtain ⟨_, positive', valid⟩ := exists_of_bind valid
      obtain rfl := Except.ok.inj valid
      exact ⟨nonzero positive, nonzero positive'⟩

theorem Layer.hasRows_of_read {yaml : Yaml.Reader} {layer : Layer} {text : String}
    (read : Layer.read yaml text = .ok layer) : layer.HasRows := by
  unfold Layer.read at read
  split at read
  · exact hasRows_of_validate read
  · contradiction

namespace Settings

theorem HasRows.overlay {settings : Settings} {layer : Layer} (rows : settings.HasRows)
    (layerRows : layer.HasRows) : (settings.overlay layer).HasRows := by
  unfold Settings.overlay
  constructor
  · cases given : layer.defaultPerPage with
    | none => exact rows.perPage
    | some size => exact layerRows.perPage size given
  · intro size set
    cases given : layer.maxPerPage with
    | none =>
      rw [given] at set
      exact rows.maximum size set
    | some maximum =>
      rw [given] at set
      exact layerRows.maximum size (given.trans set)

theorem HasRows.overlayFile {readers : Readers} {before after : Settings}
    {file : Option FileEntry} (rows : before.HasRows)
    (laid : readers.overlayFile before file = .ok after) : after.HasRows := by
  unfold Readers.overlayFile at laid
  split at laid
  · exact Except.ok.inj laid ▸ rows
  · contradiction
  · obtain ⟨layer, read, laid⟩ := exists_of_bind laid
    exact Except.ok.inj laid ▸ rows.overlay (Layer.hasRows_of_read read)

theorem hasRows_of_load {readers : Readers} {files : String → Option FileEntry}
    {environment : Environment} {profile : String} {settings : Settings}
    (read : readers.load files environment profile = .ok settings) : settings.HasRows := by
  obtain ⟨common, first, read⟩ := exists_of_bind read
  obtain ⟨special, second, read⟩ := exists_of_bind read
  have rows := (hasRows_default.overlayFile first).overlayFile second
  obtain ⟨_, _, read⟩ := exists_of_bind read
  exact Except.ok.inj read ▸ rows.withVariables _

/-- Whatever settings have been loaded from, their pages are not empty. -/
theorem Loaded.hasRows {settings : Settings} (loaded : settings.Loaded) : settings.HasRows := by
  induction loaded with
  | builtin => exact hasRows_default
  | document read =>
    obtain ⟨layer, read, laid⟩ := exists_of_bind read
    exact Except.ok.inj laid ▸ hasRows_default.overlay (Layer.hasRows_of_read read)
  | directory read => exact hasRows_of_load read
  | @overlaid environment _ _ _ applied rows =>
    have changed := rows.withVariables environment
    rw [applied] at changed
    exact changed

end Settings

end DataAccess
