import DataAccess.Proofs.Settings.Loaded
import DataAccess.Proofs.Settings.Variable

/-! Settings one by one. Each setting has a key, which says under which name a document and an
environment set it, what a text has to write to set it, and where it stands in a layer and in
settings. Variables are read key by key, each on its own, and what is read for one key says nothing
about another. -/
namespace DataAccess

namespace Settings

/-- The keys of the settings, in the order in which their variables are read. -/
inductive Key where
  | perPage
  | maxPerPage
  | sort
  | locale
  | dialect
deriving DecidableEq

namespace Key

/-- The type of a setting. -/
abbrev Carrier : Key → Type
  | perPage => UInt64
  | maxPerPage => UInt64
  | sort => String
  | locale => String
  | dialect => Dialect

def all : List Key := [perPage, maxPerPage, sort, locale, dialect]

/-- The variable that sets a setting. -/
def variableName : Key → String
  | perPage => "DATA_DEFAULT_PER_PAGE"
  | maxPerPage => "DATA_MAX_PER_PAGE"
  | sort => "DATA_DEFAULT_SORT"
  | locale => "DATA_FALLBACK_LOCALE"
  | dialect => "DATA_DIALECT"

/-- The name under which a document sets a setting. -/
def memberName : Key → String
  | perPage => "default-per-page"
  | maxPerPage => "max-per-page"
  | sort => "default-sort"
  | locale => "fallback-locale"
  | dialect => "dialect"

/-- The value of a setting. There need not be a limit to the size of a page. -/
def ofSettings : (key : Key) → Settings → Option key.Carrier
  | perPage, settings => some settings.defaultPerPage
  | maxPerPage, settings => settings.maxPerPage
  | sort, settings => some settings.defaultSort
  | locale, settings => some settings.fallbackLocale
  | dialect, settings => some settings.dialect

def set : (key : Key) → key.Carrier → Settings → Settings
  | perPage, value, settings => { settings with defaultPerPage := value }
  | maxPerPage, value, settings => { settings with maxPerPage := some value }
  | sort, value, settings => { settings with defaultSort := value }
  | locale, value, settings => { settings with fallbackLocale := value }
  | dialect, value, settings => { settings with dialect := value }

/-- What a layer sets a setting to. -/
def ofLayer : (key : Key) → Layer → Option key.Carrier
  | perPage, layer => layer.defaultPerPage
  | maxPerPage, layer => layer.maxPerPage
  | sort, layer => layer.defaultSort
  | locale, layer => layer.fallbackLocale
  | dialect, layer => layer.dialect

/-- Read the text of a variable. A size has to be positive. -/
def read : (key : Key) → String → String → Except SettingsError key.Carrier
  | perPage => readSize
  | maxPerPage => readSize
  | sort => fun _ => .ok
  | locale => fun _ => .ok
  | dialect => readDialect

/-- The text of a variable writes a value. -/
def Writes : (key : Key) → String → key.Carrier → Prop
  | perPage => WritesSize
  | maxPerPage => WritesSize
  | sort => fun text value => value = text
  | locale => fun text value => value = text
  | dialect => NamesDialect

theorem mem_all (key : Key) : key ∈ all := by
  cases key <;> decide

/-- What is read from a text is what it writes. -/
theorem read_eq_ok_iff {key : Key} {name text : String} {value : key.Carrier} :
    key.read name text = .ok value ↔ key.Writes text value := by
  have verbatim {text value : String} :
      (Except.ok text : Except SettingsError String) = .ok value ↔ value = text := by
    rw [Except.ok.injEq, eq_comm]
  cases key with
  | perPage => exact readSize_eq_ok_iff
  | maxPerPage => exact readSize_eq_ok_iff
  | sort => exact verbatim
  | locale => exact verbatim
  | dialect => exact readDialect_eq_ok_iff

@[simp]
theorem ofSettings_set (key : Key) (value : key.Carrier) (settings : Settings) :
    key.ofSettings (key.set value settings) = some value := by
  cases key <;> rfl

/-- Setting one setting leaves the others alone. -/
theorem ofSettings_set_of_ne {key other : Key} (differs : other ≠ key) (value : key.Carrier)
    (settings : Settings) : other.ofSettings (key.set value settings) = other.ofSettings settings := by
  cases key <;> cases other <;> first | contradiction | rfl

theorem ofSettings_overlay (key : Key) (settings : Settings) (layer : Layer) :
    key.ofSettings (settings.overlay layer) = (key.ofLayer layer).or (key.ofSettings settings) := by
  obtain ⟨perPage, maxPerPage, sort, locale, dialect⟩ := layer
  cases key with
  | perPage => cases perPage <;> rfl
  | maxPerPage => cases maxPerPage <;> rfl
  | sort => cases sort <;> rfl
  | locale => cases locale <;> rfl
  | dialect => cases dialect <;> rfl

end Key

/-- Settings are equal if every single one is. -/
theorem ext_of_keys {settings settings' : Settings}
    (same : ∀ key : Key, key.ofSettings settings = key.ofSettings settings') :
    settings = settings' := by
  obtain ⟨perPage, maxPerPage, sort, locale, dialect⟩ := settings
  obtain ⟨perPage', maxPerPage', sort', locale', dialect'⟩ := settings'
  obtain rfl := Option.some.inj (same .perPage)
  obtain rfl : maxPerPage = maxPerPage' := same .maxPerPage
  obtain rfl := Option.some.inj (same .sort)
  obtain rfl := Option.some.inj (same .locale)
  obtain rfl := Option.some.inj (same .dialect)
  rfl

/-- What an environment sets a setting to: nothing if it has no variable for it, else what the text
of the variable writes. -/
inductive Key.SetBy (key : Key) (environment : Environment) : Option key.Carrier → Prop
  | missing (absent : environment key.variableName = none) : SetBy key environment none
  | written {text : String} {value : key.Carrier}
    (given : environment key.variableName = some text) (writes : key.Writes text value) :
    SetBy key environment (some value)

theorem Key.SetBy.unique {key : Key} {environment : Environment} {set set' : Option key.Carrier}
    (here : key.SetBy environment set) (there : key.SetBy environment set') : set = set' := by
  cases here with
  | missing absent =>
    cases there with
    | missing _ => rfl
    | written given _ =>
      rw [absent] at given
      contradiction
  | written given writes =>
    cases there with
    | missing absent =>
      rw [absent] at given
      contradiction
    | written given' writes' =>
      rw [given] at given'
      obtain rfl := Option.some.inj given'
      have read : key.read "" _ = .ok _ := Key.read_eq_ok_iff.2 writes
      rw [Key.read_eq_ok_iff.2 writes'] at read
      exact congrArg some (Except.ok.inj read).symm

/-- Whether every variable that an environment has for a setting writes a value. -/
def Readable (environment : Environment) : Prop := ∀ key : Key, ∃ set, key.SetBy environment set

/-- Set one setting from its variable. -/
def Key.apply (key : Key) (environment : Environment) : SettingsUpdate Unit :=
  setFrom environment key.variableName key.read key.set

theorem applyVariables_eq (environment : Environment) :
    applyVariables environment = forM Key.all (Key.apply · environment) := by
  unfold Key.all
  simp only [List.forM_cons, List.forM_nil]
  rw [bind_pure_unit]
  rfl

/-- One variable is read or refused, and sets only its own setting. -/
theorem Key.apply_run (key : Key) (environment : Environment) (before : Settings) :
    (∃ error, (key.apply environment).run.run before = (.error error, before) ∧
      ¬∃ set, key.SetBy environment set) ∨
    ∃ after set, (key.apply environment).run.run before = (.ok (), after) ∧
      key.SetBy environment set ∧ key.ofSettings after = set.or (key.ofSettings before) ∧
      ∀ other ≠ key, other.ofSettings after = other.ofSettings before := by
  unfold Key.apply setFrom
  cases given : environment key.variableName with
  | none => exact .inr ⟨before, none, rfl, .missing given, rfl, fun _ _ => rfl⟩
  | some text =>
    cases accepted : key.read key.variableName text with
    | error error =>
      refine .inl ⟨error, ?_, ?_⟩
      · simp only [accepted]
        rfl
      · rintro ⟨_, absent | ⟨given', writes⟩⟩
        · rw [given] at absent
          contradiction
        · rw [given] at given'
          obtain rfl := Option.some.inj given'
          rw [Key.read_eq_ok_iff.2 writes] at accepted
          contradiction
    | ok value =>
      refine .inr ⟨key.set value before, some value, ?_,
        .written given (Key.read_eq_ok_iff.1 accepted), ofSettings_set key value before,
        fun other differs => ofSettings_set_of_ne differs value before⟩
      simp only [accepted]
      rfl

/-- Variables are read one after the other, until one is refused; each sets its own setting. -/
theorem run_forM_apply (environment : Environment) {keys : List Key} (distinct : keys.Nodup)
    (before : Settings) :
    (∃ error after, (forM keys (Key.apply · environment)).run.run before = (.error error, after) ∧
      ¬Readable environment) ∨
    ∃ after, (forM keys (Key.apply · environment)).run.run before = (.ok (), after) ∧
      (∀ key ∈ keys, ∃ set, key.SetBy environment set ∧
        key.ofSettings after = set.or (key.ofSettings before)) ∧
      ∀ key ∉ keys, key.ofSettings after = key.ofSettings before := by
  induction keys generalizing before with
  | nil => exact .inr ⟨before, rfl, nofun, fun _ _ => rfl⟩
  | cons key rest ih =>
    obtain ⟨absent, distinct⟩ := List.nodup_cons.1 distinct
    rw [List.forM_cons]
    obtain ⟨error, ran, unreadable⟩ | ⟨middle, set, ran, sets, here, frame⟩ :=
      key.apply_run environment before
    · refine .inl ⟨error, before, run_bind_of_error ran _, fun readable => ?_⟩
      exact unreadable (readable key)
    obtain ⟨error, after, failed, unreadable⟩ | ⟨after, done, later, untouched⟩ := ih distinct middle
    · exact .inl ⟨error, after, (run_bind_of_ok ran _).trans failed, unreadable⟩
    refine .inr ⟨after, (run_bind_of_ok ran _).trans done, ?_, ?_⟩
    · rintro other (_ | ⟨_, member⟩)
      · exact ⟨set, sets, (untouched key absent).trans here⟩
      · obtain ⟨set', sets', there⟩ := later other member
        have differs : other ≠ key := fun same => absent (same ▸ member)
        exact ⟨set', sets', by rw [there, frame other differs]⟩
    · intro other missing
      obtain ⟨differs, missing⟩ := not_or.1 (mt List.mem_cons.2 missing)
      exact (untouched other missing).trans (frame other differs)

/-- All variables are applied, or one of them cannot be read; those that are applied set their own
settings. -/
theorem withVariables_run (environment : Environment) (before : Settings) :
    (∃ error after, before.withVariables environment = (.error error, after) ∧
      ¬Readable environment) ∨
    ∃ after, before.withVariables environment = (.ok (), after) ∧
      ∀ key : Key, ∃ set, key.SetBy environment set ∧
        key.ofSettings after = set.or (key.ofSettings before) := by
  unfold withVariables
  rw [applyVariables_eq]
  have distinct : Key.all.Nodup := by decide
  refine (run_forM_apply environment distinct before).imp_right ?_
  rintro ⟨after, ran, set, _⟩
  exact ⟨after, ran, fun key => set key key.mem_all⟩

theorem Readable.exists_withVariables {environment : Environment} (readable : Readable environment)
    (before : Settings) : ∃ after, before.withVariables environment = (.ok (), after) := by
  obtain ⟨_, _, _, unreadable⟩ | ⟨after, ran, _⟩ := withVariables_run environment before
  · contradiction
  · exact ⟨after, ran⟩

theorem set_of_withVariables {environment : Environment} {before after : Settings}
    (applied : before.withVariables environment = (.ok (), after)) (key : Key) :
    ∃ set, key.SetBy environment set ∧ key.ofSettings after = set.or (key.ofSettings before) := by
  obtain ⟨_, _, failed, _⟩ | ⟨_, ran, set⟩ := withVariables_run environment before
  · rw [applied] at failed
    cases failed
  · rw [applied] at ran
    obtain rfl := (Prod.mk.inj ran).2
    exact set key

end Settings

end DataAccess
