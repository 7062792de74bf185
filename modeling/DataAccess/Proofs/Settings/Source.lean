import DataAccess.Proofs.Settings.Document
import DataAccess.Settings.Load

/-! Where settings come from. A file of variables completes the variables of the process: it sets
what the process has not set. Loading takes both documents and the variables, each of which has to be
valid on its own, and each setting has the value of the highest source that sets it. -/
namespace DataAccess

/-- The document of a profile. The process may name another profile. -/
def profilePath (environment : Environment) (profile : String) : String :=
  "application-" ++ (environment "SIFT_PROFILE").getD profile ++ ".yaml"

/-- The assignments of a text in order. A value may refer to other variables. -/
abbrev Assignments := Environment → String → List (String × String)

/-- Extending an environment by a text sets the variables that it does not have, each to the first
value that the text assigns to it. -/
def SetsAbsent (extend : Environment → String → Environment) (assignments : Assignments) : Prop :=
  ∀ environment text name,
    extend environment text name = (environment name).or ((assignments environment text).lookup name)

namespace Settings

/-- The variables that a file sets, if it can be read: the first assignment to each. -/
def fileVariables (assignments : Assignments) (environment : Environment) :
    Option FileEntry → Environment
  | some (.file text) => fun name => (assignments environment text).lookup name
  | _ => fun _ => none

/-- The variables of the process, completed by those of a file. -/
def completed (assignments : Assignments) (environment : Environment) (file : Option FileEntry) :
    Environment :=
  fun name => (environment name).or (fileVariables assignments environment file name)

/-- The value of a setting that no source sets. -/
def Key.builtin : (key : Key) → Option key.Carrier
  | perPage => some 10
  | maxPerPage => none
  | sort => some "created_at"
  | locale => some "en"
  | dialect => some .generic

/-- The value of a setting is that of the highest source that sets it: a variable of the process, one
of a file, the document of the profile, the common document, or none of them. -/
inductive Key.Highest (key : Key) (process file : Environment) (special common : Layer) :
    Option key.Carrier → Prop
  | process {value : key.Carrier} (set : key.SetBy process (some value)) :
    Highest key process file special common (some value)
  | file {value : key.Carrier} (unset : key.SetBy process none) (set : key.SetBy file (some value)) :
    Highest key process file special common (some value)
  | special {value : key.Carrier} (unset : key.SetBy process none) (unset' : key.SetBy file none)
    (set : key.ofLayer special = some value) :
    Highest key process file special common (some value)
  | common {value : key.Carrier} (unset : key.SetBy process none) (unset' : key.SetBy file none)
    (skipped : key.ofLayer special = none) (set : key.ofLayer common = some value) :
    Highest key process file special common (some value)
  | builtin (unset : key.SetBy process none) (unset' : key.SetBy file none)
    (skipped : key.ofLayer special = none) (skipped' : key.ofLayer common = none) :
    Highest key process file special common key.builtin

section Load

variable {readers : Readers} {assignments : Assignments} {files : String → Option FileEntry}
  {environment : Environment} {profile : String} {file : Option FileEntry} {settings : Settings}

theorem overlayFile_eq_ok_iff {before after : Settings} :
    readers.overlayFile before file = .ok after ↔
      ∃ layer, Layer.Given readers.yaml file layer ∧ after = before.overlay layer := by
  cases file with
  | none =>
    constructor
    · intro laid
      exact ⟨.empty, .missing, (Except.ok.inj laid).symm⟩
    · rintro ⟨_, _ | _, rfl⟩
      rfl
  | some entry =>
    cases entry with
    | directory => exact ⟨nofun, nofun⟩
    | file text =>
      constructor
      · intro laid
        obtain ⟨layer, read, laid⟩ := exists_of_bind laid
        exact ⟨layer, Layer.read_eq_ok_iff.1 read, (Except.ok.inj laid).symm⟩
      · rintro ⟨layer, given, rfl⟩
        simp only [Readers.overlayFile, Layer.read_eq_ok_iff.2 given]
        rfl

theorem extendFrom_eq (absent : SetsAbsent readers.extend assignments) :
    readers.extendFrom environment file = completed assignments environment file := by
  funext name
  cases file with
  | none => exact Option.or_none.symm
  | some entry =>
    cases entry with
    | directory => exact Option.or_none.symm
    | file text => exact absent environment text name

/-- Loading lays the documents over the defaults and applies the variables. -/
theorem load_eq_ok_iff (absent : SetsAbsent readers.extend assignments) :
    readers.load files environment profile = .ok settings ↔
      ∃ common special,
        Layer.Given readers.yaml (files "application.yaml") common ∧
        Layer.Given readers.yaml (files (profilePath environment profile)) special ∧
        ((default.overlay common).overlay special).withVariables
          (completed assignments environment (files ".env")) = (.ok (), settings) := by
  unfold Readers.load profilePath
  rw [extendFrom_eq absent]
  constructor
  · intro loaded
    obtain ⟨_, laid, loaded⟩ := exists_of_bind loaded
    obtain ⟨common, given, rfl⟩ := overlayFile_eq_ok_iff.1 laid
    obtain ⟨_, laid, loaded⟩ := exists_of_bind loaded
    obtain ⟨special, given', rfl⟩ := overlayFile_eq_ok_iff.1 laid
    obtain ⟨_, applied, loaded⟩ := exists_of_bind loaded
    obtain rfl := Except.ok.inj loaded
    exact ⟨common, special, given, given', Prod.ext applied rfl⟩
  · rintro ⟨common, special, given, given', applied⟩
    simp only [overlayFile_eq_ok_iff.2 ⟨common, given, rfl⟩,
      overlayFile_eq_ok_iff.2 ⟨special, given', rfl⟩, bind, Except.bind, applied]
    rfl

/-- What the variables set counts, then what the documents set, and the defaults otherwise. -/
theorem exists_of_load (absent : SetsAbsent readers.extend assignments)
    (loaded : readers.load files environment profile = .ok settings) :
    ∃ common special, Layer.Given readers.yaml (files "application.yaml") common ∧
      Layer.Given readers.yaml (files (profilePath environment profile)) special ∧
      ∀ key : Key, ∃ set,
        key.SetBy (completed assignments environment (files ".env")) set ∧
        key.ofSettings settings =
          set.or ((key.ofLayer special).or ((key.ofLayer common).or (key.ofSettings default))) := by
  obtain ⟨common, special, given, given', applied⟩ := (load_eq_ok_iff absent).1 loaded
  refine ⟨common, special, given, given', fun key => ?_⟩
  obtain ⟨set, sets, value⟩ := set_of_withVariables applied key
  exact ⟨set, sets, by rw [value, key.ofSettings_overlay, key.ofSettings_overlay]⟩

/-- A variable of the completed environment is one of the process, or one of the file that the
process does not have. -/
theorem Key.highest_of_setBy {key : Key} {special common : Layer} {set : Option key.Carrier}
    (sets : key.SetBy (completed assignments environment file) set) :
    key.Highest environment (fileVariables assignments environment file) special common
      (set.or ((key.ofLayer special).or ((key.ofLayer common).or (key.ofSettings default)))) := by
  cases sets with
  | missing absent =>
    obtain ⟨process, file⟩ := Option.or_eq_none_iff.1 absent
    cases upper : key.ofLayer special with
    | some value => exact .special (.missing process) (.missing file) upper
    | none =>
      cases lower : key.ofLayer common with
      | some value => exact .common (.missing process) (.missing file) upper lower
      | none =>
        have builtin : key.ofSettings default = key.builtin := by cases key <;> rfl
        rw [builtin]
        exact .builtin (.missing process) (.missing file) upper lower
  | written given writes =>
    obtain given | ⟨process, given⟩ := Option.or_eq_some_iff.1 given
    · exact .process (.written given writes)
    · exact .file (.missing process) (.written given writes)

/-- Settings are loaded if and only if each document and the completed environment are valid on
their own. Each setting then has the value of the highest source that sets it, and no page is
empty. -/
theorem load_takes_highest_source (readers : Readers) (assignments : Assignments)
    (absent : SetsAbsent readers.extend assignments) (files : String → Option FileEntry)
    (environment : Environment) (profile : String) :
    ((∃ settings, readers.load files environment profile = .ok settings) ↔
      (∃ common, Layer.Given readers.yaml (files "application.yaml") common) ∧
      (∃ special, Layer.Given readers.yaml (files (profilePath environment profile)) special) ∧
      Readable (completed assignments environment (files ".env"))) ∧
    ∀ settings, readers.load files environment profile = .ok settings →
      ∃ common special, Layer.Given readers.yaml (files "application.yaml") common ∧
        Layer.Given readers.yaml (files (profilePath environment profile)) special ∧
        (∀ key : Key, key.Highest environment
          (fileVariables assignments environment (files ".env")) special common
          (key.ofSettings settings)) ∧
        settings.HasRows := by
  constructor
  · constructor
    · rintro ⟨settings, loaded⟩
      obtain ⟨common, special, given, given', set⟩ := exists_of_load absent loaded
      refine ⟨⟨common, given⟩, ⟨special, given'⟩, fun key => ?_⟩
      obtain ⟨value, sets, _⟩ := set key
      exact ⟨value, sets⟩
    · rintro ⟨⟨common, given⟩, ⟨special, given'⟩, readable⟩
      obtain ⟨settings, applied⟩ :=
        readable.exists_withVariables ((default.overlay common).overlay special)
      exact ⟨settings, (load_eq_ok_iff absent).2 ⟨common, special, given, given', applied⟩⟩
  · intro settings loaded
    obtain ⟨common, special, given, given', set⟩ := exists_of_load absent loaded
    refine ⟨common, special, given, given', fun key => ?_, hasRows_of_load loaded⟩
    obtain ⟨value, sets, total⟩ := set key
    rw [total]
    exact key.highest_of_setBy sets

end Load

end Settings

namespace EnvFile

/-- The entries of a file. A byte order mark in front does not count. -/
def entriesOf (text : String) : List (List Char) :=
  let chars := text.toList
  entries .plain [] (lines (if chars.head? = some '\ufeff' then chars.drop 1 else chars))

/-- The assignments of entries in order, up to the first entry that cannot be read. A value may
refer to variables that are set by then. -/
def assignments (environment : Environment) : List (List Char) → List (String × String)
  | [] => []
  | entry :: rest =>
    match readEntry environment entry with
    | some (some (name, value)) => (name, value) :: assignments (assign environment name value) rest
    | some none => assignments environment rest
    | none => []

theorem assign_apply (environment : Environment) (name value other : String) :
    assign environment name value other =
      (environment other).or (if other = name then some value else none) := by
  unfold assign
  by_cases same : other = name
  · subst same
    cases found : environment other <;> simp [found]
  · cases environment name <;> simp [same]

theorem assignAll_apply (environment : Environment) (entries : List (List Char)) (name : String) :
    assignAll environment entries name =
      (environment name).or ((assignments environment entries).lookup name) := by
  induction entries generalizing environment with
  | nil => exact Option.or_none.symm
  | cons entry rest ih =>
    unfold assignAll assignments
    rcases readEntry environment entry with _ | _ | ⟨target, value⟩
    · exact Option.or_none.symm
    · exact ih environment
    · refine (ih _).trans ?_
      rw [assign_apply, List.lookup_cons, Option.or_assoc]
      by_cases same : name = target
      · rw [if_pos same, beq_iff_eq.2 same]
        rfl
      · rw [if_neg same, beq_eq_false_iff_ne.2 same]
        rfl

theorem setsAbsent_extend :
    SetsAbsent extend fun environment text => assignments environment (entriesOf text) :=
  fun environment text name => assignAll_apply environment (entriesOf text) name

end EnvFile

namespace Settings

/-- A directory with both documents of a profile and a file of variables. -/
def layeredDirectory : Directory where
  location := "."
  entries := [
    (["application.yaml"], .file "data: \x7bdefault-sort: id, fallback-locale: de\x7d"),
    (["application-test.yaml"], .file "data: \x7bmax-per-page: 60, default-sort: name\x7d"),
    ([".env"], .file "DATA_DEFAULT_PER_PAGE=7\nDATA_MAX_PER_PAGE=40\nDATA_MAX_PER_PAGE=30")]

def layeredEnvironment : Environment := fun name =>
  if name = "SIFT_PROFILE" then some "test"
  else if name = "DATA_DEFAULT_PER_PAGE" then some " +3 "
  else none

/-- Every layer decides one setting: the process the size of a page, the file of variables its limit,
the document of the profile the order, the common one the locale, and none the dialect. -/
def layeredSettings : Settings := ⟨3, some 40, "name", "de", .generic⟩

theorem load_takes_highest_source_layeredDirectory :
    let assignments : Assignments := fun environment text =>
      EnvFile.assignments environment (EnvFile.entriesOf text)
    let files := layeredDirectory.find?
    SetsAbsent Readers.subset.extend assignments ∧
    Readers.subset.load files layeredEnvironment "dev" = .ok layeredSettings ∧
    ∃ common special,
      Layer.Given Readers.subset.yaml (files "application.yaml") common ∧
      Layer.Given Readers.subset.yaml (files "application-test.yaml") special ∧
      ∀ key : Key, key.Highest layeredEnvironment
        (fileVariables assignments layeredEnvironment (files ".env")) special common
        (key.ofSettings layeredSettings) := by
  intro assignments files
  have loaded : Readers.subset.load files layeredEnvironment "dev" = .ok layeredSettings := by
    decide +kernel
  obtain ⟨common, special, given, given', highest, _⟩ :=
    (load_takes_highest_source Readers.subset assignments EnvFile.setsAbsent_extend files
      layeredEnvironment "dev").2 layeredSettings loaded
  exact ⟨EnvFile.setsAbsent_extend, loaded, common, special, given, given', highest⟩

end Settings

end DataAccess
