import DataAccess.Proofs.Listing.Filter
import DataAccess.Proofs.Sql.Meaning
import DataAccess.Proofs.Text.Lowercase
import DataAccess.Proofs.Text.Spelling

/-! What a compiled request asks for: that some searchable column contains the search term, and
every declared filter with a value. Read as a backend reads it, the text says just that, and its
arguments are those of the comparisons in their order. -/
namespace DataAccess

open Sql

def Text.bytes (text : String) : List UInt8 := text.toList.flatMap String.utf8EncodeChar

theorem Text.utf8EncodeChar_lt {c d : Char} (below : c < d) (rest rest' : List UInt8) :
    String.utf8EncodeChar c ++ rest < String.utf8EncodeChar d ++ rest' := by
  have numbers : c.val.toNat < d.val.toNat := below
  have bound : d.val.toNat < 1114112 := by
    rcases d.valid with small | ⟨_, large⟩
    · exact Nat.lt_trans small (by decide)
    · exact large
  unfold String.utf8EncodeChar
  generalize c.val.toNat = v at numbers
  generalize d.val.toNat = w at numbers bound
  have byte (a b : Nat) (rest rest' : List UInt8) :
      UInt8.ofNat a :: rest < UInt8.ofNat b :: rest' ↔
        a % 256 < b % 256 ∨ a % 256 = b % 256 ∧ rest < rest' := by
    rw [List.cons_lt_cons_iff, UInt8.lt_iff_toNat_lt, ← UInt8.toNat_inj, UInt8.toNat_ofNat',
      UInt8.toNat_ofNat']
  have tail (n : Nat) : (n % 64 + 128) % 256 = n % 64 + 128 := by omega
  have lead (n : Nat) : (n % 8 + 240) % 256 = n % 8 + 240 := by omega
  have thrice (n : Nat) : n / 262144 = n / 64 / 64 / 64 := by omega
  have twice (n : Nat) : n / 4096 = n / 64 / 64 := by omega
  dsimp only
  -- more bytes begin with a larger one, and as many bytes are ordered as the digits of the number
  repeat' split
  all_goals
    simp only [List.cons_append, List.nil_append, byte, tail, lead, thrice, twice]
    omega

theorem Text.bytes_lt {text other : String} (below : text < other) :
    bytes text < bytes other := by
  have chars : text.toList < other.toList := below
  unfold bytes
  generalize text.toList = first at chars
  generalize other.toList = second at chars
  induction chars with
  | @nil c rest =>
    have nonempty : String.utf8EncodeChar c ≠ [] := by
      rw [← List.length_pos_iff, String.length_utf8EncodeChar]
      exact c.utf8Size_pos
    obtain ⟨first, more, encoded⟩ := List.exists_cons_of_ne_nil nonempty
    rw [List.flatMap_cons, encoded]
    exact List.nil_lt_cons first _
  | rel below => exact utf8EncodeChar_lt below _ _
  | cons _ ih => exact List.append_left_lt ih

/-- What a leaf says, as it is written, and what it binds. -/
def Leaf.written (leaf : Leaf) : Fragment := ⟨leaf.fragment, leaf.args⟩

def Fragment.atom (fragment : Fragment) : Atom := (tokens? fragment.sql.toList).getD []

namespace FilterKind

/-- The comparison that a kind prescribes, as it is written, with what it binds. A list that is to
be excluded may be empty, and then everything is kept. -/
def comparison (kind : FilterKind) (column : String) (value : Value) : Fragment :=
  match kind, value with
  | equal, .list items => ⟨column ++ " IN (?)", [.list items]⟩
  | equal, value => ⟨column ++ " = ?", [value]⟩
  | «in», value => ⟨column ++ " IN (?)", [.list value.toItems]⟩
  | notIn, .list [] => ⟨"1 = 1", []⟩
  | notIn, value => ⟨column ++ " NOT IN (?)", [.list value.toItems]⟩
  | lt, value => ⟨column ++ " < ?", [value]⟩
  | gt, value => ⟨column ++ " > ?", [value]⟩
  | lte, value => ⟨column ++ " <= ?", [value]⟩
  | gte, value => ⟨column ++ " >= ?", [value]⟩
  | contains, value => ⟨"LOWER(" ++ column ++ ") LIKE ?",
      [.text ("%" ++ Text.lowercase value.toText ++ "%")]⟩

theorem condition_eq_leaf (kind : FilterKind) (column : String) (value : Value) :
    ∃ leaf, kind.condition column value = .leaf leaf ∧
      leaf.written = kind.comparison column value := by
  have compared (comparison : Comparison) : (column ++ " " ++ comparison.symbol ++ " ?") =
      column ++ (" " ++ comparison.symbol ++ " ?") := by
    rw [String.append_assoc, String.append_assoc, String.append_assoc]
  cases kind with
  | equal =>
    cases value with
    | list items => exact ⟨_, rfl, rfl⟩
    | _ => exact ⟨_, rfl, by rw [Leaf.written, Leaf.fragment, compared]; rfl⟩
  | «in» => exact ⟨_, rfl, rfl⟩
  | notIn =>
    cases value with
    | list items => cases items <;> exact ⟨_, rfl, rfl⟩
    | _ => exact ⟨_, rfl, rfl⟩
  | contains =>
    refine ⟨_, rfl, ?_⟩
    rw [Leaf.written, Leaf.fragment, Leaf.args, Text.lowercase_percents]
    rfl
  | lt | gt | lte | gte => exact ⟨_, rfl, by rw [Leaf.written, Leaf.fragment, compared]; rfl⟩

end FilterKind

namespace Condition

variable {α : Type} {read : Leaf → List (Connective × Formula α)}

theorem units_foldl {connective : Connective} {operands : List Condition}
    {formulas : List (Formula α)}
    (each : List.Forall₂ (fun operand formula =>
      Formula.ofChain? (operand.units read) = some formula) operands formulas)
    {chain : Condition} (spoken : chain.units read ≠ []) :
    (operands.foldl (append connective) chain).units read =
      chain.units read ++ formulas.map fun formula => (connective, formula) := by
  induction each generalizing chain with
  | nil => simp
  | @cons operand formula operands formulas whole _ ih =>
    -- the connective is written, since the chain in front says something
    have joined : (append connective chain operand).units read =
        chain.units read ++ [(connective, formula)] := by
      have tied := joinUnits_of_ne_nil spoken connective (operand.units read)
      rw [asUnit, whole] at tied
      cases chain with
      | empty => contradiction
      | _ => exact tied
    rw [List.foldl_cons, ih (by simp [joined]), joined, List.map_cons, List.append_assoc]
    rfl

/-- A chain of operands that each say something is the chain of what they say. -/
theorem ofChain?_foldl (connective : Connective) {operands : List Condition}
    {formulas : List (Formula α)}
    (each : List.Forall₂ (fun operand formula =>
      Formula.ofChain? (operand.units read) = some formula) operands formulas) :
    Formula.ofChain? ((operands.foldl (append connective) .empty).units read) =
      Formula.ofChain? (formulas.map fun formula => (connective, formula)) := by
  cases each with
  | nil => rfl
  | @cons operand formula operands formulas whole later =>
    have first : (append connective .empty operand).units read = [(.and, formula)] := by
      simp only [append, units, asUnit, whole]
      rfl
    rw [List.foldl_cons, units_foldl later (by simp [first]), first]
    rfl

end Condition

namespace Spec

/-- The columns that requests can name are columns by themselves. -/
structure NamesColumns (spec : Spec) : Prop where
  searchable : ∀ column ∈ spec.searchable, isColumn column
  filterable : ∀ key field, spec.filterable.get? key = some field →
    isColumn (field.column.getD key)

/-- Some searchable column contains the search term, if there is one that is not blank. -/
def searchFormula? (spec : Spec) (request : ListingRequest) : Option (Formula Fragment) :=
  let term := Text.trim (request.search.getD "")
  if term = "" then none
  else
    Formula.disjunction? (spec.searchable.map fun column =>
      .atom (FilterKind.contains.comparison column (.text term)))

def filterComparison (filter : String × FilterField × Value) : Fragment :=
  filter.2.1.kind.comparison (filter.2.1.column.getD filter.1) filter.2.2

/-- What a request asks for, one by one. -/
def requestFormulas (spec : Spec) (request : ListingRequest) : List (Formula Fragment) :=
  (spec.searchFormula? request).toList ++
    (spec.declared request).map fun filter => .atom (filterComparison filter)

def requestFormula? (spec : Spec) (request : ListingRequest) : Option (Formula Fragment) :=
  Formula.conjunction? (spec.requestFormulas request)

theorem searchTerm?_eq (request : ListingRequest) :
    request.searchTerm? =
      if Text.trim (request.search.getD "") = "" then none
      else some (Text.trim (request.search.getD "")) := by
  have blank : Text.trim "" = "" := rfl
  unfold ListingRequest.searchTerm?
  cases request.search with
  | none => simp [blank]
  | some text => by_cases empty : Text.trim text = "" <;> simp [empty, Option.filter]

def writtenUnits (leaf : Leaf) : List (Connective × Formula Fragment) := [(.and, .atom leaf.written)]

theorem ofChain?_filterCondition (kind : FilterKind) (column : String) (value : Value) :
    Formula.ofChain? ((kind.condition column value).units writtenUnits) =
      some (.atom (kind.comparison column value)) := by
  obtain ⟨leaf, same, written⟩ := kind.condition_eq_leaf column value
  rw [same, Condition.units, writtenUnits, written]
  rfl

theorem ofChain?_searchCondition (spec : Spec) (term : String) :
    Formula.ofChain? ((spec.searchCondition term).units writtenUnits) =
      Formula.disjunction? (spec.searchable.map fun column =>
        .atom (FilterKind.contains.comparison column (.text term))) := by
  have each : List.Forall₂ (fun operand formula =>
      Formula.ofChain? (operand.units writtenUnits) = some formula)
      (spec.searchable.map fun column => Condition.contains column term)
      (spec.searchable.map fun column =>
        .atom (FilterKind.contains.comparison column (.text term))) := by
    rw [List.forall₂_map_left_iff, List.forall₂_map_right_iff, List.forall₂_same]
    exact fun column _ => ofChain?_filterCondition .contains column (.text term)
  have whole := Condition.ofChain?_foldl .or each
  rw [List.foldl_map] at whole
  exact whole

theorem forall₂_requestFormulas (spec : Spec) (request : ListingRequest) :
    List.Forall₂ (fun operand formula =>
        Formula.ofChain? (operand.units writtenUnits) = some formula)
      (spec.requestOperands request) (spec.requestFormulas request) := by
  refine List.rel_append ?_ ?_
  · rw [searchTerm?_eq, searchFormula?]
    by_cases blank : Text.trim (request.search.getD "") = ""
    · simp [blank]
    · simp only [if_neg blank]
      have search := ofChain?_searchCondition spec (Text.trim (request.search.getD ""))
      cases columns : spec.searchable with
      | nil => simp [Formula.disjunction?, Formula.ofChain?]
      | cons column rest =>
        rw [columns] at search
        exact .cons search .nil
  · rw [filterConditions_eq, List.forall₂_map_left_iff, List.forall₂_map_right_iff,
      List.forall₂_same]
    exact fun filter _ => ofChain?_filterCondition filter.2.1.kind _ filter.2.2

/-- What a compiled request says is what the request asks for. -/
theorem written_compile (spec : Spec) (request : ListingRequest) :
    (Formula.ofChain? (spec.compile request).leafUnits).map (Formula.map Leaf.written) =
      spec.requestFormula? request := by
  have written : (spec.compile request).units writtenUnits =
      (spec.compile request).leafUnits.map fun unit => (unit.1, unit.2.map Leaf.written) :=
    Condition.units_map Leaf.written (fun leaf => [(.and, .atom leaf)]) (spec.compile request)
  rw [Formula.map_ofChain?, ← written]
  exact Condition.ofChain?_foldl .and (forall₂_requestFormulas spec request)

theorem isPlain_of_compile {spec : Spec} (named : spec.NamesColumns) (request : ListingRequest) :
    ∀ leaf ∈ (spec.compile request).leaves, leaf.IsPlain := by
  intro leaf member
  obtain ⟨column, on, origin⟩ := column_of_compile leaf member
  refine ⟨column, on, ?_⟩
  rcases origin with searched | ⟨key, field, declared, rfl⟩
  · exact named.searchable column searched
  · exact named.filterable key field declared

/-- The comparisons that a request asks for, in their order. -/
def comparisons (spec : Spec) (request : ListingRequest) : List Fragment :=
  (spec.requestFormulas request).flatMap Formula.atoms

theorem written_leaves (spec : Spec) (request : ListingRequest) :
    (spec.compile request).leaves.map Leaf.written = spec.comparisons request := by
  have atoms := congrArg (fun formula? => (formula?.map Formula.atoms).getD [])
    (spec.written_compile request)
  simp only [Formula.map_ofChain?, requestFormula?, Formula.conjunction?,
    Formula.getD_atoms_ofChain?, List.flatMap_map, Formula.atoms_map] at atoms
  rw [← Condition.atoms_leafUnits, List.map_flatMap]
  exact atoms

variable {τ : Type} [Lattice τ] [BoundedOrder τ]

/-- Whether a row is searched for, given the truth of each comparison. -/
def searchTruth (spec : Spec) (truth : Fragment → τ) (request : ListingRequest) : τ :=
  ((spec.searchFormula? request).map (Formula.eval truth)).getD ⊤

/-- Whether a row is asked for. A request that asks for nothing is for every row. -/
def requestTruth (spec : Spec) (truth : Fragment → τ) (request : ListingRequest) : τ :=
  ((spec.requestFormula? request).map (Formula.eval truth)).getD ⊤

theorem searchTruth_eq (spec : Spec) (truth : Fragment → τ) (request : ListingRequest) :
    spec.searchTruth truth request =
      if Text.trim (request.search.getD "") = "" ∨ spec.searchable = [] then ⊤
      else (spec.searchable.map fun column => truth (FilterKind.contains.comparison column
        (.text (Text.trim (request.search.getD ""))))).foldr (· ⊔ ·) ⊥ := by
  unfold searchTruth searchFormula?
  by_cases blank : Text.trim (request.search.getD "") = ""
  · simp [blank]
  · cases columns : spec.searchable with
    | nil => simp [blank, Formula.disjunction?, Formula.ofChain?]
    | cons column rest =>
      have searched := Formula.eval_disjunction truth ((column :: rest).map fun column =>
        .atom (FilterKind.contains.comparison column
          (.text (Text.trim (request.search.getD "")))))
      rw [List.map_map] at searched
      simp only [blank, false_or, if_neg (List.cons_ne_nil column rest)]
      exact searched

theorem requestTruth_eq (spec : Spec) (truth : Fragment → τ) (request : ListingRequest) :
    spec.requestTruth truth request = spec.searchTruth truth request ⊓
      allOf ((spec.declared request).map fun filter => truth (filterComparison filter)) := by
  have filters : ((spec.declared request).map fun filter =>
      Formula.atom (filterComparison filter)).map (Formula.eval truth) =
      (spec.declared request).map fun filter => truth (filterComparison filter) := by
    rw [List.map_map]
    rfl
  rw [requestTruth, requestFormula?, Formula.eval_conjunction, requestFormulas, List.map_append,
    filters, searchTruth]
  cases spec.searchFormula? request with
  | none => simp
  | some formula => rfl

/-- A declared filter that is added narrows the rows to those that it keeps. -/
theorem requestTruth_filter {spec : Spec} (truth : Fragment → τ) {request : ListingRequest}
    {key : String} {field : FilterField} {value : Value}
    (declared : spec.filterable.get? key = some field) (filled : value.isNull = false)
    (absent : ∀ other ∈ request.filters.get? key, other.isNull) :
    spec.requestTruth truth (request.filter key value) =
      spec.requestTruth truth request ⊓ truth (filterComparison (key, field, value)) := by
  have search : spec.searchTruth truth (request.filter key value) =
      spec.searchTruth truth request := rfl
  have members (filter : String × FilterField × Value) :
      filter ∈ spec.declared (request.filter key value) ↔
        filter ∈ spec.declared request ∨ filter = (key, field, value) := by
    obtain ⟨key', field', value'⟩ := filter
    have inserted : (request.filter key value).filters.get? key' =
        if key' = key then some value else request.filters.get? key' :=
      request.filters.get?_insert key key' value
    rw [mem_declared, mem_declared, inserted]
    by_cases same : key' = key
    · subst same
      have blank (found : request.filters.get? key' = some value') : value'.isNull = true :=
        absent value' found
      simp only [declared, if_true, Option.some.injEq, Prod.mk.injEq, true_and]
      constructor
      · rintro ⟨rfl, rfl, _⟩
        exact .inr ⟨rfl, rfl⟩
      · rintro (⟨_, found, counts⟩ | ⟨rfl, rfl⟩)
        · rw [blank found] at counts
          contradiction
        · exact ⟨rfl, rfl, filled⟩
    · simp [same]
  -- by key the new filter may come anywhere among the others, so the lower bounds are compared
  refine eq_of_forall_le_iff fun bound => ?_
  simp only [requestTruth_eq, search, le_inf_iff, le_allOf_iff, List.forall_mem_map, members,
    or_imp, forall_and, forall_eq, and_assoc]

/-- What a request asks for depends on its search term and the declared filters with a value. -/
theorem compile_congr {spec : Spec} {first second : ListingRequest}
    (search : Text.trim (first.search.getD "") = Text.trim (second.search.getD ""))
    (filters : ∀ key field, spec.filterable.get? key = some field →
      (first.filters.get? key).filter (!·.isNull) = (second.filters.get? key).filter (!·.isNull)) :
    spec.compile first = spec.compile second := by
  have effective {request : ListingRequest} {key : String} {value : Value} :
      (request.filters.get? key).filter (!·.isNull) = some value ↔
        request.filters.get? key = some value ∧ value.isNull = false := by
    simp [Option.filter_eq_some_iff]
  have declared : spec.declared first = spec.declared second := by
    refine (spec.ascending_declared first).eq_of_mem_iff (spec.ascending_declared second) ?_
    rintro ⟨key, field, value⟩
    rw [mem_declared, mem_declared, ← effective, ← effective]
    exact and_congr_right fun target => by rw [filters key field target]
  rw [compile, compile, requestOperands, requestOperands, filterConditions_eq, filterConditions_eq,
    declared, searchTerm?_eq, searchTerm?_eq, search]

/-- A compiled request is read as what the request asks for. -/
structure AsksFor (spec : Spec) (request : ListingRequest) : Prop where
  /-- each key that is declared and has a value counts once, in the order of the keys' bytes -/
  filters : ∀ key field value, (key, field, value) ∈ spec.declared request ↔
    spec.filterable.get? key = some field ∧ request.filters.get? key = some value ∧
      value.isNull = false
  ascending : (spec.declared request).Pairwise fun filter later =>
    Text.bytes filter.1 < Text.bytes later.1
  /-- what is contained is the one spelling of a value, in small letters -/
  contained : ∀ (column : String) (value : Value), ∃ text,
    (∀ other, value.Spells other ↔ other = text) ∧
    FilterKind.contains.comparison column value =
      ⟨"LOWER(" ++ column ++ ") LIKE ?", [.text ("%" ++ Text.lowercase text ++ "%")]⟩
  read : parse? (spec.compile request).compile.sql =
    (spec.requestFormula? request).map (Formula.map Fragment.atom)
  blank : (spec.compile request).compile.sql = "" ↔ spec.requestFormula? request = none
  args : (spec.compile request).compile.args = (spec.comparisons request).flatMap Fragment.args
  supplied : ∀ formula ∈ spec.requestFormula? request,
    (formula.map Fragment.atom).supply arity (spec.compile request).compile.args =
      (formula.map fun comparison => (comparison.atom, comparison.args), [])
  search : ∀ (τ : Type) [Lattice τ] [BoundedOrder τ] (truth : Fragment → τ),
    spec.searchTruth truth request =
      if Text.trim (request.search.getD "") = "" ∨ spec.searchable = [] then ⊤
      else (spec.searchable.map fun column => truth (FilterKind.contains.comparison column
        (.text (Text.trim (request.search.getD ""))))).foldr (· ⊔ ·) ⊥
  truth : ∀ (τ : Type) [Lattice τ] [BoundedOrder τ] (truth : Fragment → τ),
    spec.requestTruth truth request = spec.searchTruth truth request ⊓
      allOf ((spec.declared request).map fun filter => truth (filterComparison filter))

theorem asksFor {spec : Spec} (named : spec.NamesColumns) (request : ListingRequest) :
    spec.AsksFor request := by
  have plain := isPlain_of_compile named request
  have args : (spec.compile request).compile.args =
      (spec.comparisons request).flatMap Fragment.args := by
    rw [Condition.args_compile plain, ← written_leaves, List.flatMap_map]
    rfl
  constructor
  case filters => exact fun key field value => mem_declared
  case ascending => exact (spec.ascending_declared request).imp Text.bytes_lt
  case contained => exact fun column value => ⟨value.toText, fun _ => value.spells_iff, rfl⟩
  case read =>
    rw [parse?, Condition.units?_compile_of_plain plain, Option.bind_some, ← Formula.map_ofChain?,
      ← written_compile, Option.map_map]
    congr 1
    funext formula
    exact (formula.map_map Leaf.written Fragment.atom).symm
  case blank =>
    rw [Condition.sql_compile_eq_empty plain, ← Condition.leafUnits_eq_nil, ← written_compile,
      Option.map_eq_none_iff, Formula.ofChain?_eq_none]
  case args => exact args
  case supplied =>
    intro formula whole
    have atoms : formula.atoms = spec.comparisons request := by
      have same := Formula.getD_atoms_ofChain?
        ((spec.requestFormulas request).map fun formula => (Connective.and, formula))
      rw [List.flatMap_map] at same
      exact (congrArg (fun formula? => (formula?.map Formula.atoms).getD []) whole).symm.trans same
    have fits : ∀ comparison ∈ formula.atoms,
        comparison.args.length = arity comparison.atom := by
      intro comparison member
      rw [atoms, ← written_leaves] at member
      obtain ⟨leaf, inside, rfl⟩ := List.mem_map.1 member
      exact (Leaf.arity_atom (plain leaf inside)).symm
    have supplied := Formula.supply_map arity Fragment.atom Fragment.args formula fits []
    rw [atoms, List.append_nil] at supplied
    rw [args, supplied]
  case search => exact fun τ _ _ truth => spec.searchTruth_eq truth request
  case truth => exact fun τ _ _ truth => spec.requestTruth_eq truth request

/-- A compiled request is the conjunction of the search and of the declared filters with a value, in
the order of their keys. It depends on nothing else, and a filter that is added narrows it. -/
theorem compile_asks_for_request {spec : Spec} (named : spec.NamesColumns)
    (request : ListingRequest) :
    spec.AsksFor request ∧
    (∀ other : ListingRequest,
      Text.trim (other.search.getD "") = Text.trim (request.search.getD "") →
      (∀ key field, spec.filterable.get? key = some field →
        (other.filters.get? key).filter (!·.isNull) =
          (request.filters.get? key).filter (!·.isNull)) →
      spec.compile other = spec.compile request) ∧
    ∀ (key : String) (field : FilterField) (value : Value),
      spec.filterable.get? key = some field → value.isNull = false →
      (∀ old ∈ request.filters.get? key, old.isNull) →
      ∀ (τ : Type) [Lattice τ] [BoundedOrder τ] (truth : Fragment → τ),
        spec.requestTruth truth (request.filter key value) =
          spec.requestTruth truth request ⊓ truth (filterComparison (key, field, value)) := by
  refine ⟨asksFor named request, fun other search filters => compile_congr search filters, ?_⟩
  intro key field value declared filled absent τ _ _ truth
  exact requestTruth_filter truth declared filled absent

/-- People, searched by name and address and filtered by role. -/
def people : Spec :=
  { Spec.empty with
    filterable := .ofList [("roles", ⟨some "role", .in⟩)]
    searchable := ["name", "email"] }

def searchPeople : ListingRequest := ListingRequest.default.searching " Ann "

theorem compile_asks_for_request_of_people :
    let admins := searchPeople.filter "roles" (.text "admin")
    people.NamesColumns ∧ people.AsksFor admins ∧
    (people.compile admins).compile.sql =
      "(LOWER(name) LIKE ? OR LOWER(email) LIKE ?) AND role IN (?)" ∧
    people.compile (searchPeople.filter "page_size" (.int 3)) = people.compile searchPeople ∧
    ∀ truth : Fragment → Bool,
      people.requestTruth truth admins = (people.requestTruth truth searchPeople ⊓
        truth ⟨"role IN (?)", [.list [.text "admin"]]⟩) := by
  intro admins
  have onlyRoles {key : String} {field : FilterField}
      (declared : people.filterable.get? key = some field) :
      (key, field) = ("roles", ⟨some "role", .in⟩) := by
    have entry : (key, field) ∈ [("roles", (⟨some "role", .in⟩ : FilterField))] :=
      Dict.get?_eq_some_iff.1 declared
    exact List.mem_singleton.1 entry
  have named : people.NamesColumns := by
    constructor
    · intro column listed
      have either : column ∈ ["name", "email"] := listed
      simp only [List.mem_cons, List.not_mem_nil, or_false] at either
      rcases either with rfl | rfl <;> rfl
    · intro key field declared
      cases onlyRoles declared
      rfl
  obtain ⟨_, same, narrows⟩ := compile_asks_for_request named searchPeople
  have undeclared := same (searchPeople.filter "page_size" (.int 3)) rfl (by
    intro key field declared
    cases onlyRoles declared
    rfl)
  have narrowed := narrows "roles" ⟨some "role", .in⟩ (.text "admin") rfl rfl (by rintro _ ⟨⟩)
  exact ⟨named, (compile_asks_for_request named admins).1, rfl, undeclared, narrowed Bool⟩

end Spec

end DataAccess
