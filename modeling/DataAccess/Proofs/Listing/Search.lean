import DataAccess.Proofs.Listing.Meaning
import DataAccess.Proofs.Plan.Selection
import DataAccess.Proofs.Sql.Pattern
import DataAccess.Proofs.Storage.Tuple

/-! What a search finds. A search term and a text that a filter asks for are needles; a row is found
if one of its lowered texts is like the pattern that is made of the needle. -/
namespace DataAccess

open Sql

/-- What a comparison with a pattern says of a text, or of null. -/
def likeTruth (text? : Option String) (pattern : String) : Truth :=
  match text? with
  | some text => if isLike pattern.toList text.toList then .yes else .no
  | none => .unknown

theorem likeTruth_eq_top {text? : Option String} {pattern : String} :
    likeTruth text? pattern = ⊤ ↔ ∃ text ∈ text?, isLike pattern.toList text.toList := by
  have yes : Truth.yes = ⊤ := rfl
  cases text? with
  | none => simp [likeTruth, ← yes]
  | some text => simp [likeTruth, ← yes]

/-- The comparison of a lowered column with a pattern. -/
def likeAtom (column : String) : Atom := Fragment.atom ⟨"LOWER(" ++ column ++ ") LIKE ?", []⟩

/-- A row, as far as a backend compares its texts. -/
structure TextRow where
  /-- the lowered text in a column, which may be null -/
  lowered : String → Option String
  truth : Atom × List Value → Truth
  compares : ∀ column pattern,
    truth (likeAtom column, [.text pattern]) = likeTruth (lowered column) pattern

namespace TextRow

/-- The row with one text in all of its columns. -/
def uniform (text : String) : TextRow where
  lowered _ := some text
  truth
    | (_, [.text pattern]) => likeTruth (some text) pattern
    | _ => .unknown
  compares _ _ := rfl

variable (row : TextRow)

/-- What a comparison says of a row, with what it binds. -/
def verdict (comparison : Fragment) : Truth := row.truth (comparison.atom, comparison.args)

/-- The lowered needle is in the lowered text of a column. -/
def Holds (column needle : String) : Prop :=
  ∃ text ∈ row.lowered column, (Text.lowercase needle).toList <:+: text.toList

theorem verdict_contains (column : String) (value : Value) :
    row.verdict (FilterKind.contains.comparison column value) = ⊤ ↔
      ∃ text ∈ row.lowered column,
        isLike ("%" ++ Text.lowercase value.toText ++ "%").toList text.toList := by
  have compared := row.compares column ("%" ++ Text.lowercase value.toText ++ "%")
  rw [← likeTruth_eq_top, ← compared]
  rfl

end TextRow

/-- Every row with the needle in one of the columns is kept. They are the only ones if and only if
there is no wildcard in the needle. -/
structure KeepsFound (columns : List String) (needle : String) (keeps : TextRow → Prop) : Prop where
  found : ∀ row : TextRow, (∃ column ∈ columns, row.Holds column needle) → keeps row
  only_iff : (∀ row : TextRow, keeps row ↔ ∃ column ∈ columns, row.Holds column needle) ↔
    IsLiteral needle.toList

theorem keepsFound {columns : List String} (nonempty : columns ≠ []) (value : Value)
    {keeps : TextRow → Prop} (kept : ∀ row : TextRow, keeps row ↔
      ∃ column ∈ columns, row.verdict (FilterKind.contains.comparison column value) = ⊤) :
    KeepsFound columns value.toText keeps := by
  obtain ⟨found, only⟩ := Condition.finds_percents value.toText
  obtain ⟨first, listed⟩ := List.exists_mem_of_ne_nil columns nonempty
  simp only [TextRow.verdict_contains] at kept
  constructor
  case found =>
    rintro row ⟨column, listed, text, known, holds⟩
    exact (kept row).2 ⟨column, listed, text, known, found _ holds⟩
  case only_iff =>
    simp only [kept, TextRow.Holds, ← only]
    constructor
    · intro rows text
      have row := rows (.uniform (String.ofList text))
      have some_ (here : String → Prop) : (∃ column ∈ columns, ∃ given ∈
          (TextRow.uniform (String.ofList text)).lowered column, here given) ↔
          here (String.ofList text) := by
        constructor
        · rintro ⟨_, _, _, ⟨⟩, holds⟩
          exact holds
        · exact fun holds => ⟨first, listed, _, rfl, holds⟩
      rwa [some_, some_, String.toList_ofList] at row
    · intro like row
      simp only [like]

namespace Spec

/-- Which rows a compiled request keeps by their texts. -/
structure FindsTexts (spec : Spec) (request : ListingRequest) : Prop where
  /-- a row is kept that the search and all filters keep -/
  kept : ∀ row : TextRow,
    (if (spec.compile request).compile.isBlank then some ⊤
      else (spec.compile request).compile.truth? row.truth) =
    some (spec.searchTruth row.verdict request ⊓
      allOf ((spec.declared request).map fun filter => row.verdict (filterComparison filter)))
  search : ∀ term ∈ request.searchTerm?, spec.searchable ≠ [] →
    KeepsFound spec.searchable term fun row => spec.searchTruth row.verdict request = ⊤
  filter : ∀ key field value, (key, field, value) ∈ spec.declared request →
    field.kind = .contains →
    KeepsFound [field.column.getD key] value.toText fun row =>
      row.verdict (filterComparison (key, field, value)) = ⊤

theorem foldr_sup_eq_top {values : List Truth} : values.foldr (· ⊔ ·) ⊥ = ⊤ ↔ ⊤ ∈ values := by
  induction values with
  | nil => simp
  | cons value rest ih => rw [List.foldr_cons, max_eq_top, ih, List.mem_cons, eq_comm]

theorem findsTexts {spec : Spec} (named : spec.NamesColumns) (request : ListingRequest) :
    spec.FindsTexts request := by
  have asks := asksFor named request
  constructor
  case kept =>
    intro row
    rw [← asks.truth Truth row.verdict, requestTruth]
    cases whole : spec.requestFormula? request with
    | none =>
      have silent : (spec.compile request).compile.isBlank = true :=
        beq_iff_eq.2 (asks.blank.2 whole)
      rw [if_pos silent]
      rfl
    | some formula =>
      have spoken : ¬(spec.compile request).compile.isBlank = true := by
        rw [Fragment.isBlank, beq_iff_eq, asks.blank, whole]
        exact Option.some_ne_none formula
      have supplied := asks.supplied formula whole
      rw [if_neg spoken, Fragment.truth?, asks.read, whole, Option.map_some, Option.map_some,
        supplied, Formula.eval_map]
      rfl
  case search =>
    intro term searched columns
    rw [searchTerm?_eq] at searched
    split at searched
    · contradiction
    · next filled =>
      obtain rfl := Option.some.inj searched
      refine keepsFound columns (.text (Text.trim (request.search.getD ""))) fun row => ?_
      rw [asks.search Truth row.verdict, if_neg (not_or.2 ⟨filled, columns⟩), foldr_sup_eq_top,
        List.mem_map]
  case filter =>
    rintro key ⟨column, kind⟩ value _ rfl
    refine keepsFound (List.cons_ne_nil _ _) value fun row => ?_
    simp only [List.mem_singleton, exists_eq_left]
    rfl

/-- A needle is found where it is, and elsewhere too if and only if it has a wildcard: what a needle
is compared with, and the rows that a request keeps by a search term or by a text in a filter. -/
theorem needles_are_found_literally_iff {spec : Spec} (named : spec.NamesColumns)
    (request : ListingRequest) :
    (∀ column needle : String,
      (Condition.contains column needle).AsksFor column needle (· <:+: ·) ∧
      (Condition.startsWith column needle).AsksFor column needle (· <+: ·) ∧
      (Condition.endsWith column needle).AsksFor column needle (· <:+ ·)) ∧
    spec.FindsTexts request := by
  refine ⟨fun column needle => ⟨?_, ?_, ?_⟩, findsTexts named request⟩
  · exact Condition.asksFor_contains column needle
  · exact Condition.asksFor_startsWith column needle
  · exact Condition.asksFor_endsWith column needle

/-- People, searched by name. -/
def directory : Spec := { Spec.empty with searchable := ["name"] }

theorem needles_are_found_literally_iff_of_directory :
    let request := ListingRequest.default.searching " Ann "
    (directory.compile request).compile.sql = "LOWER(name) LIKE ?" ∧
    (directory.compile request).compile.args = [.text "%ann%"] ∧
    directory.searchTruth (TextRow.uniform "joanna").verdict request = ⊤ ∧
    ∀ row : TextRow, directory.searchTruth row.verdict request = ⊤ ↔
      ∃ column ∈ ["name"], row.Holds column "Ann" := by
  intro request
  have named : directory.NamesColumns := by
    constructor
    · intro column listed
      obtain rfl := List.mem_singleton.1 listed
      rfl
    · intro key field declared
      cases Dict.get?_eq_some_iff.1 declared
  obtain ⟨_, finds⟩ := needles_are_found_literally_iff named request
  have search := finds.search "Ann" rfl (List.cons_ne_nil _ _)
  have held : (TextRow.uniform "joanna").Holds "name" "Ann" :=
    ⟨"joanna", rfl, ['j', 'o'], ['a'], by decide +kernel⟩
  exact ⟨rfl, rfl, search.found _ ⟨"name", List.mem_singleton_self _, held⟩,
    search.only_iff.2 (by decide)⟩

/-- A search for `a_c` finds the text `abc`, and what is said to contain `50%`, or to begin or end with
it, need not do so. -/
theorem wildcards_find_other_texts :
    let request := ListingRequest.default.searching "a_c"
    ((directory.compile request).compile.args = [.text "%a_c%"] ∧
      directory.searchTruth (TextRow.uniform "abc").verdict request = ⊤ ∧
      ¬(TextRow.uniform "abc").Holds "name" "a_c") ∧
    ((Condition.contains "name" "50%").compile.args = [.text "%50%%"] ∧
      isLike "%50%%".toList "1500".toList ∧ ¬"50%".toList <:+: "1500".toList) ∧
    ((Condition.startsWith "name" "50%").compile.args = [.text "50%%"] ∧
      isLike "50%%".toList "500".toList ∧ ¬"50%".toList <+: "500".toList) ∧
    ((Condition.endsWith "name" "50%").compile.args = [.text "%50%"] ∧
      isLike "%50%".toList "500".toList ∧ ¬"50%".toList <:+ "500".toList) := by
  intro request
  refine ⟨⟨rfl, by decide +kernel, ?_⟩, ⟨rfl, ?_⟩, ⟨rfl, ?_⟩, rfl, ?_⟩
  · rintro ⟨_, ⟨⟩, inside⟩
    revert inside
    decide +kernel
  all_goals decide +kernel

end Spec

end DataAccess
