import DataAccess.Proofs.Listing.Filter
import DataAccess.Proofs.Sql.Outline
import DataAccess.Repository.Service

/-! What a request discloses in the text of a listing. Of the search term only its presence shows,
of the sort key only an identifier, and of the filters only the outlines of the declared ones. -/
namespace DataAccess

/-- What a filter shows of its value. A text comparison shows only that there is one. -/
def FilterKind.outline (kind : FilterKind) (value : Value) : Outline :=
  if kind = .contains ∧ value.isNull = false then .scalar else value.outline

theorem FilterKind.outline_eq_null {kind : FilterKind} {value : Value} :
    kind.outline value = .null ↔ value.isNull = true := by
  unfold outline
  cases value <;> cases kind <;> simp [Value.isNull, Value.outline]

/-- The items of a value, a scalar being its own only one. -/
def Outline.toItems : Outline → List Outline
  | list items => items
  | outline => [outline]

theorem itemOutlines_toItems (value : Value) :
    itemOutlines value.toItems = value.outline.toItems := by
  cases value <;> rfl

theorem Condition.inList_alike (column : String) {first second : Value}
    (shown : first.outline = second.outline) :
    (inList column first).Alike (inList column second) := by
  refine .leaf rfl rfl ?_
  simp only [Leaf.args, List.map_cons, Value.outline, itemOutlines_toItems, shown]

theorem Condition.notInList_alike (column : String) {first second : Value}
    (shown : first.outline = second.outline) :
    (notInList column first).Alike (notInList column second) := by
  have items : itemOutlines first.toItems = itemOutlines second.toItems := by
    rw [itemOutlines_toItems, itemOutlines_toItems, shown]
  unfold notInList
  generalize first.toItems = values at items
  generalize second.toItems = values' at items
  cases values with
  | nil =>
    cases values' with
    | nil => exact .refl _
    | cons => contradiction
  | cons value rest =>
    cases values' with
    | nil => contradiction
    | cons => exact .leaf rfl rfl (congrArg (fun items => [Outline.list items]) items)

/-- Values of which a filter shows the same make conditions of the same text. -/
theorem FilterKind.condition_alike {kind : FilterKind} (column : String) {first second : Value}
    (shown : kind.outline first = kind.outline second) :
    (kind.condition column first).Alike (kind.condition column second) := by
  have outlines (other : kind ≠ .contains) : first.outline = second.outline := by
    simpa [outline, other] using shown
  have compared (comparison : Comparison) (same : first.outline = second.outline) :
      (Condition.compare column comparison first).Alike
        (Condition.compare column comparison second) :=
    .leaf rfl rfl (congrArg (fun outline => [outline]) same)
  cases kind with
  | contains => exact .leaf rfl rfl rfl
  | «in» => exact Condition.inList_alike column (outlines nofun)
  | notIn => exact Condition.notInList_alike column (outlines nofun)
  | lt => exact compared .lt (outlines nofun)
  | gt => exact compared .gt (outlines nofun)
  | lte => exact compared .lte (outlines nofun)
  | gte => exact compared .gte (outlines nofun)
  | equal =>
    have same := outlines nofun
    cases first with
    | list items =>
      cases second with
      | list items' => exact Condition.inList_alike column same
      | _ => contradiction
    | _ =>
      cases second with
      | list items' => contradiction
      | _ => exact compared .eq same

namespace Spec

/-- What a declared filter of a request shows; an absent one shows as much as a null. -/
def filterOutline (field : FilterField) (key : String) (request : ListingRequest) : Outline :=
  ((request.filters.get? key).map field.kind.outline).getD .null

/-- Requests that differ in their scalars only: in the words of the search, in the scalars of the
filters, and in what the specification does not declare. -/
structure Alike (spec : Spec) (first second : ListingRequest) : Prop where
  page : first.page = second.page
  perPage : first.perPage = second.perPage
  pagination : first.pagination = second.pagination
  direction : first.sortDirection = second.sortDirection
  column : SortTerm.requestedColumn? first.sortKey = SortTerm.requestedColumn? second.sortKey
  search : first.searchTerm?.isSome = second.searchTerm?.isSome
  filters : ∀ key field, spec.filterable.get? key = some field →
    filterOutline field key first = filterOutline field key second

/-- What a filter that counts shows. -/
def shown (filter : String × FilterField × Value) : String × FilterField × Outline :=
  (filter.1, filter.2.1, filter.2.1.kind.outline filter.2.2)

theorem mem_shown {spec : Spec} {request : ListingRequest} {key : String} {field : FilterField}
    {outline : Outline} :
    (key, field, outline) ∈ (spec.declared request).map shown ↔
      spec.filterable.get? key = some field ∧ filterOutline field key request = outline ∧
        outline ≠ .null := by
  simp only [declared, List.mem_map, List.mem_filterMap, declared?_eq_some, filterOutline]
  constructor
  · rintro ⟨⟨key', field', value⟩, ⟨entry, listed, target, filled, same⟩, shows⟩
    obtain ⟨rfl, rfl⟩ : key' = entry.1 ∧ value = entry.2 := by
      exact ⟨congrArg Prod.fst same, congrArg (fun filter => filter.2.2) same⟩
    obtain ⟨rfl, rfl, rfl⟩ : entry.1 = key ∧ field' = field ∧
        field'.kind.outline entry.2 = outline := by
      simpa [shown] using shows
    rw [Dict.get?_eq_some_iff.2 listed]
    refine ⟨target, rfl, fun null => ?_⟩
    rw [FilterKind.outline_eq_null, filled] at null
    contradiction
  · rintro ⟨target, rfl, filled⟩
    cases present : request.filters.get? key with
    | none => simp [present] at filled
    | some value =>
      simp only [present, Option.map_some, Option.getD_some] at filled ⊢
      rw [ne_eq, FilterKind.outline_eq_null, Bool.not_eq_true] at filled
      exact ⟨(key, field, value),
        ⟨(key, value), Dict.get?_eq_some_iff.1 present, target, filled, rfl⟩, rfl⟩

theorem ascending_shown (spec : Spec) (request : ListingRequest) :
    Ascending ((spec.declared request).map shown) :=
  List.pairwise_map.2 (spec.ascending_declared request)

theorem shown_eq {spec : Spec} {first second : ListingRequest} (alike : spec.Alike first second) :
    (spec.declared first).map shown = (spec.declared second).map shown := by
  refine (ascending_shown spec first).eq_of_mem_iff (ascending_shown spec second) ?_
  rintro ⟨key, field, outline⟩
  rw [mem_shown, mem_shown]
  exact and_congr_right fun declared => by rw [alike.filters key field declared]

theorem filterConditions_alike {spec : Spec} {first second : ListingRequest}
    (alike : spec.Alike first second) :
    List.Forall₂ Condition.Alike ((spec.declared first).map filterCondition)
      ((spec.declared second).map filterCondition) := by
  have shows := shown_eq alike
  rw [← List.forall₂_eq_eq_eq, List.forall₂_map_left_iff, List.forall₂_map_right_iff] at shows
  rw [List.forall₂_map_left_iff, List.forall₂_map_right_iff]
  refine shows.imp fun filter filter' same => ?_
  obtain ⟨key, field, value⟩ := filter
  obtain ⟨key', field', value'⟩ := filter'
  simp only [shown, Prod.mk.injEq] at same
  obtain ⟨rfl, rfl, same⟩ := same
  exact FilterKind.condition_alike _ same

theorem searchCondition_alike (spec : Spec) (term term' : String) :
    (spec.searchCondition term).Alike (spec.searchCondition term') := by
  have columns : List.Forall₂ Condition.Alike
      (spec.searchable.map fun column => .contains column term)
      (spec.searchable.map fun column => .contains column term') := by
    rw [List.forall₂_map_left_iff, List.forall₂_map_right_iff, List.forall₂_same]
    exact fun column _ => .leaf rfl rfl rfl
  have searched := Condition.Alike.foldl .or columns (.refl .empty)
  rwa [List.foldl_map, List.foldl_map] at searched

theorem compile_alike {spec : Spec} {first second : ListingRequest}
    (alike : spec.Alike first second) : (spec.compile first).Alike (spec.compile second) := by
  refine Condition.Alike.foldl .and ?_ (.refl .empty)
  unfold requestOperands
  rw [filterConditions_eq, filterConditions_eq]
  refine List.rel_append ?_ (filterConditions_alike alike)
  have searched := alike.search
  cases term : first.searchTerm? with
  | none =>
    have none' : second.searchTerm? = none := by simpa [term] using searched.symm
    rw [none']
    exact .nil
  | some words =>
    have present : second.searchTerm?.isSome := by
      rw [← searched, term]
      rfl
    obtain ⟨words', term'⟩ := Option.isSome_iff_exists.1 present
    rw [term']
    dsimp only
    split
    · exact .nil
    · exact .cons (searchCondition_alike spec words words') .nil

end Spec

theorem Planner.visible_alike {schema : Schema} (planner : Planner schema)
    {condition condition' : Condition} (alike : condition.Alike condition') :
    (planner.visible (some condition)).Alike (planner.visible (some condition')) := by
  have filtered := Query.Alike.filter
    (.refl { planner.wholeTable with joins := planner.spec.joins }) alike
  unfold visible Query.restrict
  cases planner.scope? with
  | none => exact filtered
  | some column => exact filtered.filterNull column

theorem Planner.listingQuery_alike {schema : Schema} (planner : Planner schema) {spec : Spec}
    {condition condition' : Condition} {first second : ListingRequest} (counted : Bool)
    (conditions : condition.Alike condition') (alike : spec.Alike first second) :
    planner.window? first counted = planner.window? second counted ∧
      (planner.listingRows (some condition)).Alike (planner.listingRows (some condition')) ∧
      (planner.listingQuery (some condition) first counted).Alike
        (planner.listingQuery (some condition') second counted) := by
  have window : planner.window? first counted = planner.window? second counted := by
    unfold window? ListingRequest.isPaginated
    rw [alike.page, alike.perPage, alike.pagination]
  have order : planner.listingOrder first = planner.listingOrder second := by
    simp only [listingOrder, SortTerm.resolve, alike.column, alike.direction]
  have rows : (planner.listingRows (some condition)).Alike
      (planner.listingRows (some condition')) := by
    have visible := planner.visible_alike conditions
    refine ⟨?_, visible.clauses⟩
    unfold listingRows
    rw [← visible.rest]
  refine ⟨window, rows, ?_⟩
  unfold listingQuery
  rw [order, window]
  cases planner.window? second counted <;>
  · refine ⟨?_, rows.clauses⟩
    rw [← rows.rest]
    rfl

namespace Repository

variable {schema : Schema} (repository : Repository schema)

theorem listCondition_alike (condition : Option Condition) {options : ReadOptions}
    {first second : ListingRequest} (alike : (repository.specFor options).Alike first second) :
    (repository.listCondition condition first options).Alike
      (repository.listCondition condition second options) := by
  have compiled : (repository.compile first options).Alike (repository.compile second options) :=
    Spec.compile_alike alike
  cases condition with
  | none => exact compiled
  | some given => exact (Condition.Alike.refl given).append .and compiled

/-- The listing that a request is planned as, restricted by a caller's condition. -/
def listingFor (options : ReadOptions) (planner : Planner schema) (condition : Option Condition)
    (locale : String) (counted : Bool) (request : ListingRequest) : Listing :=
  planner.listing (some (repository.listCondition condition request options)) request locale counted

/-- Requests that differ in their scalars only are planned as statements of the same text, which
bind equally many arguments. A sort key that is no identifier is as good as none. -/
theorem listing_discloses_outlines (options : ReadOptions) (planner : Planner schema)
    (condition : Option Condition) (locale : String) (counted : Bool) :
    (∀ first second, (repository.specFor options).Alike first second →
      let listing := repository.listingFor options planner condition locale counted first
      let other := repository.listingFor options planner condition locale counted second
      listing.select.Alike other.select ∧ Option.Rel Statement.Alike listing.count other.count ∧
        listing.page = other.page) ∧
    ∀ (request : ListingRequest) (key : String), isIdentifier (Text.trim key) false = false →
      repository.listingFor options planner condition locale counted
          { request with sortKey := some key } =
        repository.listingFor options planner condition locale counted
          { request with sortKey := none } := by
  refine ⟨fun first second alike => ?_, fun request key rejected => ?_⟩
  · have conditions := repository.listCondition_alike condition alike
    obtain ⟨window, rows, queries⟩ := planner.listingQuery_alike counted conditions alike
    refine ⟨queries.select _, ?_, window⟩
    cases counted with
    | false => exact .none
    | true => exact .some rows.count
  · have column : SortTerm.requestedColumn? (some key) = SortTerm.requestedColumn? none := by
      simp [SortTerm.requestedColumn?, rejected]
    have order : planner.listingOrder { request with sortKey := some key } =
        planner.listingOrder { request with sortKey := none } := by
      simp only [Planner.listingOrder, SortTerm.resolve, column]
    have query (condition : Option Condition) :
        planner.listingQuery condition { request with sortKey := some key } counted =
          planner.listingQuery condition { request with sortKey := none } counted := by
      unfold Planner.listingQuery
      rw [order]
      rfl
    unfold listingFor Planner.listing
    rw [query]
    rfl

/-- Users that requests search by name, and filter by city, status and tag. -/
def searchedUsers : Repository ⟨"users", .i64, "id", ["id", "name"], none, none, []⟩ :=
  ⟨{ Spec.empty with
      searchable := ["name"],
      filterable := .ofList [("city", ⟨none, .contains⟩), ("status", ⟨none, .equal⟩),
        ("tag", ⟨none, .notIn⟩)] }, .default, .pool⟩

theorem listing_discloses_outlines_of_search :
    let first := ((ListingRequest.default.searching "ann").filter "status" (.text "open")).filter
      "tag" (.list [.int 1, .null])
    let second := ((((ListingRequest.default.searching "' OR 1 = 1 --").filter
      "status" (.int 7)).filter "tag" (.list [.text "?", .null])).filter
      "role" (.text "admin")).sortedBy "id; DROP" "asc"
    let planner : Planner _ := ⟨searchedUsers.spec, .default, false⟩
    let listing := searchedUsers.listingFor .default planner none "en" true
    (searchedUsers.specFor .default).Alike (first.sortedBy "1" "asc") second ∧
    isIdentifier (Text.trim "1") false = false ∧
    (listing (first.sortedBy "1" "asc")).select.Alike (listing second).select ∧
    listing { first with sortKey := some "1" } = listing { first with sortKey := none } := by
  intro first second planner listing
  have alike : (searchedUsers.specFor .default).Alike (first.sortedBy "1" "asc") second := by
    refine ⟨rfl, rfl, rfl, rfl, rfl, rfl, fun key field declared => ?_⟩
    have listed : (key, field) ∈ [("city", ⟨none, .contains⟩), ("status", ⟨none, .equal⟩),
        ("tag", ⟨none, .notIn⟩)] := Dict.get?_eq_some_iff.1 declared
    simp only [List.mem_cons, Prod.mk.injEq, List.not_mem_nil, or_false] at listed
    rcases listed with ⟨rfl, rfl⟩ | ⟨rfl, rfl⟩ | ⟨rfl, rfl⟩ <;> rfl
  obtain ⟨discloses, rejects⟩ :=
    searchedUsers.listing_discloses_outlines .default planner none "en" true
  exact ⟨alike, rfl, (discloses _ _ alike).1, rejects first "1" rfl⟩

end Repository

end DataAccess
