import DataAccess.Proofs.Listing.Window
import DataAccess.Proofs.Plan.Listing
import DataAccess.Proofs.Settings.Loaded

/-! The windows that listings write. Offsets stop at the largest signed word. Sizes do not: one that
stands in the settings may be any word, and it is written as it is unless a smaller maximum is set. -/
namespace DataAccess

namespace Page

theorem rowsFor_le_iff {settings : Settings} {perPage : Int64} {bound : Nat} (one : 1 ≤ bound) :
    rowsFor settings perPage ≤ bound ↔
      (if perPage.toInt ≤ 0 then settings.defaultPerPage.toNat else perPage.toInt.toNat) ≤ bound ∨
        ∃ maximum ∈ settings.maxPerPage, maximum.toNat ≤ bound := by
  unfold rowsFor
  cases settings.maxPerPage with
  | none =>
    simp only [Option.elim_none, Option.mem_def, reduceCtorEq, false_and, exists_false, or_false]
    omega
  | some maximum =>
    simp only [Option.elim_some, Option.mem_def, Option.some.injEq, exists_eq_left']
    omega

/-- A size that a request asks for fits a signed word, so only one from the settings may not. -/
theorem rowsFor_fits_iff (settings : Settings) (perPage : Int64) :
    rowsFor settings perPage ≤ maxOffset.toNat ↔
      0 < perPage ∨ settings.defaultPerPage ≤ maxOffset ∨
        ∃ maximum ∈ settings.maxPerPage, maximum ≤ maxOffset := by
  have largest : maxOffset.toNat = 2 ^ 63 - 1 := rfl
  have positive : 0 < perPage ↔ 0 < perPage.toInt := Int64.lt_iff_toInt_lt
  rw [rowsFor_le_iff (by omega), positive, ← or_assoc]
  simp only [UInt64.le_iff_toNat_le]
  have signed := perPage.toInt_lt
  apply or_congr_left
  split <;> omega

/-- A page has at least one row, even if the maximum is zero. -/
theorem rowsFor_le_maximum_iff {settings : Settings} {perPage : Int64} {maximum : UInt64}
    (capped : settings.maxPerPage = some maximum) :
    rowsFor settings perPage ≤ maximum.toNat ↔ maximum ≠ 0 := by
  have word : maximum ≠ 0 ↔ 1 ≤ maximum.toNat := by
    rw [ne_eq, ← UInt64.toNat_inj, Nat.one_le_iff_ne_zero]
    rfl
  rw [word]
  constructor
  · exact (Nat.le_max_right _ 1).trans
  · intro one
    exact (rowsFor_le_iff one).2 (.inr ⟨maximum, capped, Nat.le_refl _⟩)

end Page

namespace Planner

variable {schema : Schema} {planner : Planner schema}

/-- A paged listing writes a window of at least one row behind an offset that fits a signed word. It
has no more rows than a maximum that is not zero, as none is in loaded settings. The limit fits a
signed word exactly if the request asks for a size, or the default or the maximum fits. -/
theorem listing_limit_fits_iff {spec : Spec} {settings : Settings} {unscoped : Bool}
    (made : Planner.make schema spec settings unscoped = .ok planner)
    (condition : Option Condition) {request : ListingRequest} (paginated : request.isPaginated)
    (locale : String) :
    ∃ limit offset : Nat,
      (planner.listing condition request locale true).select.sql =
        (planner.listing condition request locale false).select.sql ++
          " LIMIT " ++ toString limit ++ " OFFSET " ++ toString offset ∧
      1 ≤ limit ∧
      (∀ maximum ∈ settings.maxPerPage, limit ≤ maximum.toNat ↔ maximum ≠ 0) ∧
      (settings.Loaded → ∀ maximum ∈ settings.maxPerPage, limit ≤ maximum.toNat) ∧
      offset ≤ Page.maxOffset.toNat ∧
      (limit ≤ Page.maxOffset.toNat ↔
        0 < request.perPage ∨ settings.defaultPerPage ≤ Page.maxOffset ∨
          ∃ maximum ∈ settings.maxPerPage, maximum ≤ Page.maxOffset) := by
  have settings_eq : planner.settings = settings := congrArg Planner.settings (make_eq made).1
  have window : planner.window? request true =
      some (Page.normalize request.page request.perPage settings) := by
    rw [window?, paginated, settings_eq]
    rfl
  have size := Page.toNat_size_normalize settings request.perPage request.page
  refine ⟨Page.rowsFor settings request.perPage,
    (Page.normalize request.page request.perPage settings).offset.toNat, ?_, ?_, ?_, ?_, ?_, ?_⟩
  · rw [select_listing, window, ← size]
    simp [Page.windowText, Page.limit, String.append_assoc]
  · exact Nat.le_max_right _ 1
  · intro maximum capped
    exact Page.rowsFor_le_maximum_iff capped
  · intro loaded maximum capped
    exact (Page.rowsFor_le_maximum_iff capped).2 (loaded.hasRows.maximum maximum capped)
  · rw [Page.toNat_offset]
    exact Nat.min_le_right _ _
  · exact Page.rowsFor_fits_iff settings request.perPage

/-- The default size is the least word that is no signed one. -/
def oversizedPlanner : Planner PlannedCall.markedUsers :=
  ⟨.empty, { Settings.default with defaultPerPage := 0x8000000000000000 }, false⟩

/-- A variable can set the size, and the variables of a process are all that is needed. -/
theorem loaded_oversizedPlanner : oversizedPlanner.settings.Loaded := by
  let environment : Environment := fun name =>
    if name = "DATA_DEFAULT_PER_PAGE" then some "9223372036854775808" else none
  have applied : Settings.default.withVariables environment =
    (.ok (), oversizedPlanner.settings) := rfl
  exact .overlaid .builtin applied

theorem listing_limit_fits_iff_of_capped :
    let settings : Settings := { Settings.default with maxPerPage := some 50 }
    let planner : Planner PlannedCall.markedUsers := ⟨.empty, settings, false⟩
    let request := ListingRequest.default.withPage 3 500
    settings.Loaded ∧
    Planner.make PlannedCall.markedUsers .empty settings false = .ok planner ∧
    request.isPaginated ∧
    ∃ limit offset : Nat,
      (planner.listing none request "en" true).select.sql =
        (planner.listing none request "en" false).select.sql ++
          " LIMIT " ++ toString limit ++ " OFFSET " ++ toString offset ∧
      1 ≤ limit ∧ limit ≤ 50 ∧ limit ≤ Page.maxOffset.toNat ∧ offset ≤ Page.maxOffset.toNat := by
  intro settings planner request
  let environment : Environment := fun name =>
    if name = "DATA_MAX_PER_PAGE" then some "50" else none
  have applied : Settings.default.withVariables environment = (.ok (), settings) := rfl
  have loaded : settings.Loaded := .overlaid .builtin applied
  have made : Planner.make PlannedCall.markedUsers .empty settings false = .ok planner := rfl
  have paginated : request.isPaginated := rfl
  obtain ⟨limit, offset, written, positive, _, capped, within, fits⟩ :=
    listing_limit_fits_iff made none paginated "en"
  have asked : (0 : Int64) < request.perPage := by decide
  exact ⟨loaded, made, paginated, limit, offset, written, positive, capped loaded 50 rfl,
    fits.2 (.inl asked), within⟩

/-- A request that leaves the size to the settings writes a limit that no signed word holds. -/
theorem default_limit_exceeds_signed_words :
    oversizedPlanner.settings.Loaded ∧
    Planner.make PlannedCall.markedUsers .empty oversizedPlanner.settings false =
      .ok oversizedPlanner ∧
    (oversizedPlanner.listing none .default "en" true).select.sql =
      "SELECT * FROM users WHERE users.deleted_at IS NULL ORDER BY created_at DESC" ++
        " LIMIT 9223372036854775808 OFFSET 0" ∧
    ¬9223372036854775808 ≤ Page.maxOffset.toNat :=
  ⟨loaded_oversizedPlanner, rfl, by decide +kernel, by decide⟩

end Planner

end DataAccess
