import DataAccess.Proofs.Plan.Listing
import DataAccess.Proofs.Settings.Source

/-! The order of listings. A requested key counts if it is an identifier, and a default of the
specification if it is not empty; the configured default always counts. Neither a document nor a
variable has to name a column there, so the order of a listing is without one exactly if the source
that decides the configured default sets the empty text, and nothing else is asked for. -/
namespace DataAccess

/-- The column of an order: the requested key if it is an identifier, blanks around it aside, else
the default of the specification if there is one, else the configured default. -/
structure SortTerm.Chosen (key specDefault : Option String) (settings : Settings)
    (column : String) : Prop where
  requested : ∀ text ∈ key, isIdentifier (Text.trim text) false → column = Text.trim text
  declared : (∀ text ∈ key, ¬ isIdentifier (Text.trim text) false) →
    ∀ text ∈ specDefault, text ≠ "" → column = text
  configured : (∀ text ∈ key, ¬ isIdentifier (Text.trim text) false) →
    (∀ text ∈ specDefault, text = "") → column = settings.defaultSort

namespace SortTerm

theorem requestedColumn?_eq_none {key : Option String}
    (unnamed : ∀ text ∈ key, ¬ isIdentifier (Text.trim text) false) :
    requestedColumn? key = none := by
  cases key with
  | none => rfl
  | some text => exact Option.filter_some_neg (Bool.eq_false_iff.2 (unnamed text rfl))

theorem chosen_resolve (key direction specDefault : Option String) (settings : Settings) :
    Chosen key specDefault settings (resolve key direction specDefault settings).column := by
  constructor
  · rintro text ⟨⟩ named
    have requested : requestedColumn? (some text) = some (Text.trim text) :=
      Option.filter_some_pos named
    rw [resolve, requested]
    rfl
  · rintro unnamed text ⟨⟩ named
    have declared : (some text).filter (· ≠ "") = some text :=
      Option.filter_some_pos (decide_eq_true named)
    rw [resolve, requestedColumn?_eq_none unnamed]
    exact congrArg (·.getD settings.defaultSort) declared
  · intro unnamed empty
    have declared : specDefault.filter (· ≠ "") = none :=
      Option.filter_eq_none_iff.2 fun text given named => of_decide_eq_true named (empty text given)
    rw [resolve, requestedColumn?_eq_none unnamed]
    exact congrArg (·.getD settings.defaultSort) declared

/-- No identifier is empty, so a column can only be missing in the configured default. -/
theorem Chosen.eq_empty_iff {key specDefault : Option String} {settings : Settings} {column : String}
    (chosen : Chosen key specDefault settings column) :
    column = "" ↔ (∀ text ∈ key, ¬ isIdentifier (Text.trim text) false) ∧
      (∀ text ∈ specDefault, text = "") ∧ settings.defaultSort = "" := by
  constructor
  · rintro rfl
    have unnamed : ∀ text ∈ key, ¬ isIdentifier (Text.trim text) false := by
      intro text given named
      rw [← chosen.requested text given named] at named
      exact absurd named (by decide)
    have empty : ∀ text ∈ specDefault, text = "" := by
      intro text given
      by_contra named
      exact named (chosen.declared unnamed text given named).symm
    exact ⟨unnamed, empty, (chosen.configured unnamed empty).symm⟩
  · rintro ⟨unnamed, empty, unset⟩
    rw [chosen.configured unnamed empty, unset]

end SortTerm

namespace Settings

/-- When a source leaves settings without a sort column: when it decides the column, and sets the
empty text. -/
structure UnsortedBySource (settings : Settings) : Prop where
  document : ∀ (yaml : Yaml.Reader) (text : String), ofDocument yaml text = .ok settings →
    (settings.defaultSort = "" ↔
      ∃ layer, Layer.Given yaml (some (.file text)) layer ∧ layer.defaultSort = some "")
  directory : ∀ (readers : Readers) (assignments : Assignments),
    SetsAbsent readers.extend assignments → ∀ files environment profile,
    readers.load files environment profile = .ok settings → (settings.defaultSort = "" ↔
      ∃ common special, Layer.Given readers.yaml (files "application.yaml") common ∧
        Layer.Given readers.yaml (files (profilePath environment profile)) special ∧
        ((environment "DATA_DEFAULT_SORT").or <|
          (fileVariables assignments environment (files ".env") "DATA_DEFAULT_SORT").or <|
          special.defaultSort.or common.defaultSort) = some "")
  overlaid : ∀ (environment : Environment) (before : Settings),
    before.withVariables environment = (.ok (), settings) → (settings.defaultSort = "" ↔
      (environment "DATA_DEFAULT_SORT").or (some before.defaultSort) = some "")

/-- Every text of a variable is a column. -/
theorem Key.eq_of_setBy_sort {environment : Environment} {set : Option Key.sort.Carrier}
    (sets : Key.sort.SetBy environment set) : set = environment "DATA_DEFAULT_SORT" := by
  cases sets with
  | missing absent => exact absent.symm
  | written given writes => exact writes ▸ given.symm

/-- The built-in column is not empty, so only a source above it can leave the column out. -/
theorem or_defaultSort_eq_empty_iff (set : Option String) :
    set.or (Key.sort.ofSettings default) = some "" ↔ set = some "" := by
  cases set with
  | none => exact ⟨by decide, nofun⟩
  | some column => exact Iff.rfl

theorem unsortedBySource (settings : Settings) : settings.UnsortedBySource := by
  have column : settings.defaultSort = "" ↔ Key.sort.ofSettings settings = some "" :=
    Option.some_inj.symm
  constructor
  · intro yaml text loaded
    obtain ⟨layer, read, laid⟩ := exists_of_bind loaded
    obtain rfl := Except.ok.inj laid
    have given := Layer.read_eq_ok_iff.1 read
    rw [column, Key.ofSettings_overlay, or_defaultSort_eq_empty_iff]
    constructor
    · exact fun unset => ⟨layer, given, unset⟩
    · rintro ⟨other, given', unset⟩
      rw [given.unique given']
      exact unset
  · intro readers assignments absent files environment profile loaded
    obtain ⟨common, special, given, given', value⟩ := exists_of_load absent loaded
    obtain ⟨set, sets, value⟩ := value .sort
    obtain rfl := Key.eq_of_setBy_sort sets
    have decided := or_defaultSort_eq_empty_iff <|
      (environment "DATA_DEFAULT_SORT").or <|
      (fileVariables assignments environment (files ".env") "DATA_DEFAULT_SORT").or <|
      special.defaultSort.or common.defaultSort
    simp only [completed, Option.or_assoc] at decided value
    rw [column, value]
    refine decided.trans ⟨fun unset => ⟨common, special, given, given', unset⟩, ?_⟩
    rintro ⟨common', special', laid, laid', unset⟩
    rwa [given.unique laid, given'.unique laid']
  · intro environment before applied
    obtain ⟨set, sets, value⟩ := set_of_withVariables applied .sort
    obtain rfl := Key.eq_of_setBy_sort sets
    rw [column, value]
    rfl

end Settings

namespace Planner

variable {schema : Schema} (planner : Planner schema)

/-- What a listing is before it is rendered. -/
theorem selectTemplate_listingQuery (condition : Option Condition) (request : ListingRequest)
    (counted : Bool) (columns : String) :
    (planner.listingQuery condition request counted).selectTemplate columns =
      ⟨"SELECT " ++ columns ++ (planner.listingRows condition).extent.sql ++
          planner.orderText request ++
          ((planner.window? request counted).map Page.windowText).getD "",
        (planner.listingRows condition).extent.args⟩ := by
  obtain ⟨ordered, unlimited⟩ := planner.orderText_orderedRows condition request
  have template (window : String) :
      "SELECT " ++ columns ++ (planner.listingRows condition).source.sql ++
          (planner.listingRows condition).groupText ++
          (planner.orderedRows condition request).orderText ++ window =
        "SELECT " ++ columns ++ (planner.listingRows condition).extent.sql ++
          planner.orderText request ++ window := by
    rw [ordered, Query.extent]
    simp only [String.append_assoc]
  unfold listingQuery
  cases planner.window? request counted with
  | none =>
    have window : (planner.orderedRows condition request).windowText =
        ((none : Option Page).map Page.windowText).getD "" := unlimited
    rw [← window, ← template]
    rfl
  | some page =>
    have window : Page.windowText page = (Query.windowText
        (((planner.orderedRows condition request).take page.limit).skip page.offset)) := by
      simp [Page.windowText, Query.windowText, Query.take, Query.skip, String.append_assoc]
    rw [Option.map_some, Option.getD_some, window, ← template]
    rfl

/-- A listing is ordered by the column that its sources choose, and writes it as it is. It is empty
if and only if nothing names a column but settings with an empty one, which a document or a variable
can set. -/
theorem listing_column_eq_empty_iff (condition : Option Condition) (request : ListingRequest)
    (locale : String) (counted : Bool) :
    let column := (planner.listingOrder request).column
    let rows := (planner.listingRows condition).extent
    SortTerm.Chosen request.sortKey planner.spec.defaultSort planner.settings column ∧
    (column = "" ↔
      (∀ text ∈ request.sortKey, ¬ isIdentifier (Text.trim text) false) ∧
      (∀ text ∈ planner.spec.defaultSort, text = "") ∧ planner.settings.defaultSort = "") ∧
    (planner.listing condition request locale counted).select =
      Fragment.render ⟨"SELECT " ++ planner.selectList true locale ++ rows.sql ++
        " ORDER BY " ++ column ++ " " ++ (SortDirection.parse request.sortDirection).sql ++
        ((planner.window? request counted).map Page.windowText).getD "", rows.args⟩
        planner.dialect ∧
    planner.settings.UnsortedBySource := by
  intro column rows
  have chosen : SortTerm.Chosen request.sortKey planner.spec.defaultSort planner.settings column :=
    SortTerm.chosen_resolve _ request.sortDirection _ _
  refine ⟨chosen, chosen.eq_empty_iff, ?_, Settings.unsortedBySource _⟩
  have dialect : (planner.listingQuery condition request counted).dialect = planner.dialect := by
    unfold listingQuery
    cases planner.window? request counted <;> exact planner.dialect_visible condition
  have template := planner.selectTemplate_listingQuery condition request counted
    (planner.selectList true locale)
  rw [orderText, SortTerm.sql] at template
  simp only [← String.append_assoc] at template
  exact congrArg₂ Fragment.render template dialect

/-- The settings of a document that sets the empty text. -/
def unsortedPlanner : Planner PlannedCall.markedUsers :=
  ⟨.empty, { Settings.default with defaultSort := "" }, false⟩

/-- The document is accepted, and a listing is ordered by no column. -/
theorem empty_sort_orders_by_nothing :
    Settings.ofYaml "data:\n  default-sort: ''\n" = .ok unsortedPlanner.settings ∧
    (unsortedPlanner.listingOrder .default).column = "" ∧
    (unsortedPlanner.listing none .default "en" false).select.sql =
      "SELECT * FROM users WHERE users.deleted_at IS NULL ORDER BY  DESC" :=
  ⟨by decide +kernel, rfl, by decide +kernel⟩

end Planner

end DataAccess
