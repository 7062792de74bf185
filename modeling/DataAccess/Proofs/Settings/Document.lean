import DataAccess.Proofs.Settings.Key

/-! Documents on their own. A document is valid if its part for settings can be found and each key
there has no value, a null one, or the only one, which then has to be of the type of the setting.
What one key sets does not depend on the others, and reading a document gives what its keys set. -/
namespace DataAccess

namespace Yaml.Reader

variable (yaml : Reader)

/-- One entry has a name and no other does. -/
def Only (entries : List (String × yaml.Node)) (name : String) (node : yaml.Node) : Prop :=
  ∃ before after, entries = before ++ (name, node) :: after ∧
    (∀ entry ∈ before, entry.1 ≠ name) ∧ ∀ entry ∈ after, entry.1 ≠ name

/-- What some entries set under a name: nothing if no entry has it or its value is null, else what
its value means. -/
inductive Sets {α : Type} (means : yaml.Node → α → Prop) (entries : List (String × yaml.Node))
    (name : String) : Option α → Prop
  | missing (absent : ∀ entry ∈ entries, entry.1 ≠ name) : Sets means entries name none
  | null {node : yaml.Node} (only : yaml.Only entries name node) (empty : yaml.isNull node) :
    Sets means entries name none
  | value {node : yaml.Node} {value : α} (only : yaml.Only entries name node)
    (present : ¬yaml.isNull node) (meant : means node value) : Sets means entries name (some value)

/-- The entries of the part of a document that sets settings. A blank document has none, nor does
one without the part. -/
inductive Part (text : String) : List (String × yaml.Node) → Prop
  | blank (unwritten : ∀ c ∈ text.toList, Text.isBlank c) : Part text []
  | written {root : yaml.Node} {entries : List (String × yaml.Node)}
    {part : Option (List (String × yaml.Node))} (spoken : ∃ c ∈ text.toList, ¬Text.isBlank c)
    (parsed : yaml.root? text = some root) (mapping : yaml.entries? root = some entries)
    (sets : yaml.Sets (fun node members => yaml.entries? node = some members) entries "data" part) :
    Part text (part.getD [])

variable {yaml} {α : Type} {entries : List (String × yaml.Node)} {name : String}

theorem field?_eq_some_none_iff :
    yaml.field? entries name = some none ↔ ∀ entry ∈ entries, entry.1 ≠ name := by
  have unnamed : (entries.filter fun entry => entry.1 == name) = [] ↔
      ∀ entry ∈ entries, entry.1 ≠ name := by
    simp only [List.filter_eq_nil_iff, beq_iff_eq, ne_eq]
  rw [← unnamed]
  unfold field?
  split
  next missing => exact iff_of_true rfl missing
  next entry one =>
    have present : some (some entry.2) ≠ some none :=
      (Option.some_injective _).ne (Option.some_ne_none entry.2)
    exact iff_of_false present (one ▸ List.cons_ne_nil _ _)
  next empty _ => exact iff_of_false (Option.some_ne_none _).symm empty

theorem field?_eq_some_some_iff {node : yaml.Node} :
    yaml.field? entries name = some (some node) ↔ yaml.Only entries name node := by
  have only : (entries.filter fun entry => entry.1 == name) = [(name, node)] ↔
      yaml.Only entries name node := by
    simp only [List.filter_eq_cons_iff, List.filter_eq_nil_iff, beq_iff_eq, true_and]
    rfl
  rw [← only]
  unfold field?
  split
  next missing =>
    have absent : some none ≠ some (some node) :=
      (Option.some_injective _).ne (Option.some_ne_none node).symm
    exact iff_of_false absent (missing ▸ (List.cons_ne_nil _ _).symm)
  next entry one =>
    have named : entry.1 = name := by
      have member : entry ∈ entries.filter fun entry => entry.1 == name :=
        one ▸ List.mem_singleton_self entry
      exact beq_iff_eq.1 (List.mem_filter.1 member).2
    rw [one, Option.some_inj, Option.some_inj, List.singleton_inj, Prod.ext_iff]
    exact (and_iff_right named).symm
  next _ several => exact iff_of_false (Option.some_ne_none _).symm (several _)

theorem sets_iff {read : yaml.Node → Option α} {set : Option α} :
    (∃ found, yaml.field? entries name = some found ∧ yaml.optional? read found = some set) ↔
      yaml.Sets (fun node value => read node = some value) entries name set := by
  constructor
  · rintro ⟨found, given, reads⟩
    cases found with
    | none =>
      obtain rfl := Option.some.inj reads
      exact .missing (field?_eq_some_none_iff.1 given)
    | some node =>
      have only := field?_eq_some_some_iff.1 given
      change (if yaml.isNull node then some none else (read node).map some) = some set at reads
      split at reads
      next empty =>
        obtain rfl := Option.some.inj reads
        exact .null only empty
      next present =>
        obtain ⟨value, read, rfl⟩ := Option.map_eq_some_iff.1 reads
        exact .value only present read
  · rintro (absent | ⟨only, empty⟩ | ⟨only, present, read⟩)
    · exact ⟨none, field?_eq_some_none_iff.2 absent, rfl⟩
    · exact ⟨some _, field?_eq_some_some_iff.2 only, if_pos empty⟩
    · refine ⟨some _, field?_eq_some_some_iff.2 only, ?_⟩
      rw [optional?, if_neg present, read]
      rfl

/-- A narrower meaning of values is one of what they set. -/
theorem sets_and_iff {means : yaml.Node → α → Prop} {narrow : α → Prop} {set : Option α} :
    yaml.Sets (fun node value => means node value ∧ narrow value) entries name set ↔
      yaml.Sets means entries name set ∧ ∀ value ∈ set, narrow value := by
  constructor
  · rintro (absent | ⟨only, empty⟩ | ⟨only, present, meant, narrow⟩)
    · exact ⟨.missing absent, nofun⟩
    · exact ⟨.null only empty, nofun⟩
    · refine ⟨.value only present meant, ?_⟩
      rintro _ ⟨⟩
      exact narrow
  · rintro ⟨absent | ⟨only, empty⟩ | ⟨only, present, meant⟩, narrow⟩
    · exact .missing absent
    · exact .null only empty
    · exact .value only present ⟨meant, narrow _ rfl⟩

end Yaml.Reader

namespace Settings.Key

/-- What a node of a document means for a setting. -/
def Means (yaml : Yaml.Reader) : (key : Key) → yaml.Node → key.Carrier → Prop
  | perPage, node, size => yaml.word? node = some size ∧ size ≠ 0
  | maxPerPage, node, size => yaml.word? node = some size ∧ size ≠ 0
  | sort, node, text => yaml.text? node = some text
  | locale, node, text => yaml.text? node = some text
  | dialect, node, value =>
    ∃ name, yaml.variant? node = some name ∧ (name, value) ∈ Dialect.names

end Settings.Key

namespace Layer

open Settings (Key)

/-- What a file gives. A file that is missing sets nothing, and a directory in its place gives
nothing at all; in a document every key has to be valid, whatever the other keys and the other
sources are. -/
inductive Given (yaml : Yaml.Reader) : Option FileEntry → Layer → Prop
  | missing : Given yaml none empty
  | document {text : String} {members : List (String × yaml.Node)} {layer : Layer}
    (part : yaml.Part text members)
    (sets : ∀ key : Key, yaml.Sets (key.Means yaml) members key.memberName (key.ofLayer layer)) :
    Given yaml (some (.file text)) layer

variable {yaml : Yaml.Reader} {text : String} {members : List (String × yaml.Node)} {layer : Layer}

theorem ofEntries?_eq_some_iff :
    ofEntries? yaml members = some layer ↔
      yaml.Sets (fun node size => yaml.word? node = some size) members "default-per-page"
        layer.defaultPerPage ∧
      yaml.Sets (fun node size => yaml.word? node = some size) members "max-per-page"
        layer.maxPerPage ∧
      yaml.Sets (fun node sort => yaml.text? node = some sort) members "default-sort"
        layer.defaultSort ∧
      yaml.Sets (fun node locale => yaml.text? node = some locale) members "fallback-locale"
        layer.fallbackLocale ∧
      yaml.Sets (fun node dialect => (yaml.variant? node).bind Dialect.ofName? = some dialect) members
        "dialect" layer.dialect := by
  simp only [← Yaml.Reader.sets_iff]
  simp only [ofEntries?, Option.bind_eq_bind, Option.bind_eq_some_iff]
  constructor
  · rintro ⟨_, perPageFound, _, perPage, _, maximumFound, _, maximum, _, sortFound, _, sort,
      _, localeFound, _, locale, _, dialectFound, _, dialect, set⟩
    obtain rfl := Option.some.inj set
    exact ⟨⟨_, perPageFound, perPage⟩, ⟨_, maximumFound, maximum⟩, ⟨_, sortFound, sort⟩,
      ⟨_, localeFound, locale⟩, _, dialectFound, dialect⟩
  · rintro ⟨⟨_, perPageFound, perPage⟩, ⟨_, maximumFound, maximum⟩, ⟨_, sortFound, sort⟩,
      ⟨_, localeFound, locale⟩, _, dialectFound, dialect⟩
    exact ⟨_, perPageFound, _, perPage, _, maximumFound, _, maximum, _, sortFound, _, sort,
      _, localeFound, _, locale, _, dialectFound, _, dialect, rfl⟩

/-- Entries are read key by key, and the sizes among them have to be positive. -/
theorem sets_iff :
    (∀ key : Key, yaml.Sets (key.Means yaml) members key.memberName (key.ofLayer layer)) ↔
      ofEntries? yaml members = some layer ∧ layer.HasRows := by
  have named (node : yaml.Node) (dialect : Dialect) :
      (yaml.variant? node).bind Dialect.ofName? = some dialect ↔
        Key.dialect.Means yaml node dialect := by
    simp only [Option.bind_eq_some_iff, Dialect.ofName?_eq_some_iff]
    rfl
  rw [ofEntries?_eq_some_iff]
  simp only [named]
  constructor
  · intro sets
    obtain ⟨perPage, perPagePositive⟩ := Yaml.Reader.sets_and_iff.1 (sets .perPage)
    obtain ⟨maximum, maximumPositive⟩ := Yaml.Reader.sets_and_iff.1 (sets .maxPerPage)
    exact ⟨⟨perPage, maximum, sets .sort, sets .locale, sets .dialect⟩,
      perPagePositive, maximumPositive⟩
  · rintro ⟨⟨perPage, maximum, sort, locale, dialect⟩, rows⟩ key
    cases key with
    | perPage => exact Yaml.Reader.sets_and_iff.2 ⟨perPage, rows.perPage⟩
    | maxPerPage => exact Yaml.Reader.sets_and_iff.2 ⟨maximum, rows.maximum⟩
    | sort => exact sort
    | locale => exact locale
    | dialect => exact dialect

theorem ofText?_eq_some_iff :
    ofText? yaml text = some layer ↔
      ∃ members, yaml.Part text members ∧ ofEntries? yaml members = some layer := by
  unfold ofText?
  split
  next blank =>
    have unwritten := Text.trimChars_eq_nil_iff.1 (List.isEmpty_iff.1 blank)
    constructor
    · rintro ⟨⟩
      exact ⟨[], .blank unwritten, rfl⟩
    · rintro ⟨_, _ | ⟨⟨c, member, solid⟩, _⟩, read⟩
      · exact read
      · exact absurd (unwritten c member) solid
  next written =>
    have spoken : ∃ c ∈ text.toList, ¬Text.isBlank c := by
      by_contra unwritten
      refine written (List.isEmpty_iff.2 (Text.trimChars_eq_nil_iff.2 fun c member => ?_))
      by_contra solid
      exact unwritten ⟨c, member, solid⟩
    simp only [Option.bind_eq_bind, Option.bind_eq_some_iff]
    constructor
    · rintro ⟨root, parsed, entries, mapping, found, given, part, reads, read⟩
      exact ⟨_, .written spoken parsed mapping (Yaml.Reader.sets_iff.1 ⟨found, given, reads⟩), read⟩
    · rintro ⟨_, unwritten | ⟨_, parsed, mapping, sets⟩, read⟩
      · obtain ⟨c, member, solid⟩ := spoken
        exact absurd (unwritten c member) solid
      · obtain ⟨found, given, reads⟩ := Yaml.Reader.sets_iff.2 sets
        exact ⟨_, parsed, _, mapping, found, given, _, reads, read⟩

theorem validate_of_hasRows (rows : layer.HasRows) : layer.validate = .ok layer := by
  obtain ⟨perPage, maximum, sort, locale, dialect⟩ := layer
  have accepted {key : String} {size : UInt64} (positive : size ≠ 0) :
      Settings.positive key size = .ok size := if_neg positive
  unfold validate
  cases perPage with
  | none =>
    cases maximum with
    | none => rfl
    | some most =>
      simp only [accepted (rows.maximum most rfl)]
      rfl
  | some size =>
    simp only [accepted (rows.perPage size rfl)]
    cases maximum with
    | none => rfl
    | some most =>
      simp only [accepted (rows.maximum most rfl)]
      rfl

theorem eq_of_validate {given : Layer} (valid : given.validate = .ok layer) : given = layer := by
  obtain ⟨perPage, maximum, sort, locale, dialect⟩ := given
  cases perPage with
  | none =>
    cases maximum with
    | none => exact Except.ok.inj valid
    | some most =>
      obtain ⟨_, _, valid⟩ := exists_of_bind valid
      exact Except.ok.inj valid
  | some size =>
    obtain ⟨_, _, valid⟩ := exists_of_bind valid
    cases maximum with
    | none => exact Except.ok.inj valid
    | some most =>
      obtain ⟨_, _, valid⟩ := exists_of_bind valid
      exact Except.ok.inj valid

theorem validate_eq_ok_iff {given : Layer} :
    given.validate = .ok layer ↔ given = layer ∧ layer.HasRows := by
  constructor
  · exact fun valid => ⟨eq_of_validate valid, hasRows_of_validate valid⟩
  · rintro ⟨rfl, rows⟩
    exact validate_of_hasRows rows

theorem read_eq_ok_iff : read yaml text = .ok layer ↔ Given yaml (some (.file text)) layer := by
  have parts : read yaml text = .ok layer ↔ ofText? yaml text = some layer ∧ layer.HasRows := by
    unfold read
    cases ofText? yaml text with
    | none => exact iff_of_false nofun nofun
    | some given =>
      rw [Option.some_inj]
      exact validate_eq_ok_iff
  rw [parts, ofText?_eq_some_iff]
  constructor
  · rintro ⟨⟨members, part, read⟩, rows⟩
    exact .document part (sets_iff.2 ⟨read, rows⟩)
  · rintro (_ | ⟨part, sets⟩)
    obtain ⟨read, rows⟩ := sets_iff.1 sets
    exact ⟨⟨_, part, read⟩, rows⟩

/-- What a file gives is determined by the file. -/
theorem Given.unique {file : Option FileEntry} {layer layer' : Layer}
    (given : Given yaml file layer) (given' : Given yaml file layer') : layer = layer' := by
  cases given with
  | missing =>
    cases given'
    rfl
  | document part sets =>
    have here := read_eq_ok_iff.2 (.document part sets)
    have there := read_eq_ok_iff.2 given'
    exact Except.ok.inj (here.symm.trans there)

end Layer

end DataAccess
