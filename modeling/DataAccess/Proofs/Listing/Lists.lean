import DataAccess.Proofs.Listing.Meaning

/-! Lists in a compiled request. A list is meant for `IN`, whose parentheses hold any number of
expressions. Behind another operator there is room for one, and a list of several is written as
several all the same: the filters that order rows pass on what they are given. -/
namespace DataAccess

def Value.isList : Value → Bool
  | list _ => true
  | _ => false

/-- Only lists take several slots. -/
theorem Value.length_slots {value : Value} (scalar : value.isList = false) :
    value.slots.length = 1 := by
  cases value with
  | list items => contradiction
  | _ => rfl

theorem Dialect.length_slotsText (dialect : Dialect) (before : Nat) (slots : List (Option Value)) :
    (dialect.slotsText before slots).length = slots.length := by
  induction slots generalizing before with
  | nil => rfl
  | cons slot rest ih => cases slot <;> simp [slotsText, ih]

namespace Leaf

def isMembership : Leaf → Bool
  | inList _ _ => true
  | notInList _ _ => true
  | _ => false

/-- The words of a leaf up to its operator and the value behind that, for an operator that has room
for one expression. -/
def comparison? : Leaf → Option (String × Value)
  | compare column comparison value => some (column ++ " " ++ comparison.symbol ++ " ", value)
  | like column pattern => some (column ++ " LIKE ", .text pattern)
  | likeLowered column pattern =>
    some ("LOWER(" ++ column ++ ") LIKE ", .text (Text.lowercase pattern))
  | _ => none

theorem of_comparison? {leaf : Leaf} {words : String} {value : Value}
    (compares : leaf.comparison? = some (words, value)) :
    leaf.isMembership = false ∧ leaf.args = [value] ∧
      leaf.layout = [.text words, .argument value] ∧ ' ' ∈ words.toList := by
  cases leaf with
  | compare | like | likeLowered =>
    obtain ⟨rfl, rfl⟩ := Prod.mk.inj (Option.some.inj compares)
    exact ⟨rfl, rfl, rfl, by simp⟩
  | _ => contradiction

end Leaf

namespace FilterKind

/-- The kinds that compare the order of a column and a value. -/
def isOrdering : FilterKind → Bool
  | lt | gt | lte | gte => true
  | _ => false

/-- An ordering filter passes on its value, whatever it is. Any other kind makes a membership of a
list, or a text. -/
theorem condition_cases (kind : FilterKind) (column : String) (value : Value) :
    ∃ leaf, kind.condition column value = .leaf leaf ∧
      if kind.isOrdering then ∃ words, leaf.comparison? = some (words, value)
      else leaf.isMembership = true ∨
        ∃ words side, leaf.comparison? = some (words, side) ∧ side.isList = false := by
  cases kind with
  | equal =>
    cases value with
    | list items => exact ⟨_, rfl, .inl rfl⟩
    | _ => exact ⟨_, rfl, .inr ⟨_, _, rfl, rfl⟩⟩
  | «in» | notIn => exact ⟨_, rfl, .inl rfl⟩
  | contains => exact ⟨_, rfl, .inr ⟨_, _, rfl, rfl⟩⟩
  | lt | gt | lte | gte => exact ⟨_, rfl, _, rfl⟩

end FilterKind

namespace Spec

/-- The leaves of a compiled request: those of its search, and one for each filter that counts. -/
theorem leaves_compile_eq (spec : Spec) (request : ListingRequest) :
    ∃ search : List Leaf, (spec.compile request).leaves =
        search ++ (spec.declared request).flatMap (fun filter => (filterCondition filter).leaves) ∧
      ∀ leaf ∈ search, ∃ words text, leaf.comparison? = some (words, .text text) := by
  rw [leaves_compile, requestOperands, filterConditions_eq, List.flatMap_append, List.flatMap_map]
  refine ⟨_, rfl, ?_⟩
  intro leaf member
  obtain ⟨operand, listed, inside⟩ := List.mem_flatMap.1 member
  split at listed
  · split at listed
    · contradiction
    · obtain rfl := List.mem_singleton.1 listed
      rw [leaves_searchCondition] at inside
      obtain ⟨column, _, inside⟩ := List.mem_flatMap.1 inside
      obtain rfl := List.mem_singleton.1 inside
      exact ⟨_, _, rfl⟩
  · contradiction

/-- A leaf of a compiled request is a membership, or a comparison with no list or with what a client
has sent for an ordering filter. -/
theorem origin_of_compile {spec : Spec} {request : ListingRequest} {leaf : Leaf}
    (member : leaf ∈ (spec.compile request).leaves) :
    leaf.isMembership = true ∨ ∃ words side, leaf.comparison? = some (words, side) ∧
      (side.isList = false ∨
        ∃ filter ∈ spec.declared request, filter.2.1.kind.isOrdering ∧ filter.2.2 = side) := by
  obtain ⟨search, leaves, texts⟩ := spec.leaves_compile_eq request
  rw [leaves] at member
  rcases List.mem_append.1 member with searched | filtered
  · obtain ⟨words, text, compares⟩ := texts leaf searched
    exact .inr ⟨words, .text text, compares, .inl rfl⟩
  · obtain ⟨filter, counts, inside⟩ := List.mem_flatMap.1 filtered
    obtain ⟨leaf', same, passes⟩ := filter.2.1.kind.condition_cases
      (filter.2.1.column.getD filter.1) filter.2.2
    rw [filterCondition, same] at inside
    obtain rfl := List.mem_singleton.1 inside
    split at passes
    · next ordering =>
      obtain ⟨words, compares⟩ := passes
      exact .inr ⟨words, filter.2.2, compares, .inr ⟨filter, counts, ordering, rfl⟩⟩
    · exact passes.imp_right fun ⟨words, side, compares, scalar⟩ =>
        ⟨words, side, compares, .inl scalar⟩

/-- The leaf that a filter prescribes is in the compiled request if the filter counts. -/
theorem mem_leaves_of_declared {spec : Spec} {request : ListingRequest}
    {filter : String × FilterField × Value} (counts : filter ∈ spec.declared request) {leaf : Leaf}
    (prescribed : filterCondition filter = .leaf leaf) : leaf ∈ (spec.compile request).leaves := by
  obtain ⟨search, leaves, _⟩ := spec.leaves_compile_eq request
  rw [leaves]
  refine List.mem_append_right _ (List.mem_flatMap.2 ⟨filter, counts, ?_⟩)
  rw [prescribed]
  exact List.mem_singleton_self leaf

theorem ordering_of_declared {spec : Spec} {request : ListingRequest}
    {filter : String × FilterField × Value} (counts : filter ∈ spec.declared request)
    (ordering : filter.2.1.kind.isOrdering) :
    ∃ leaf ∈ (spec.compile request).leaves, ∃ words,
      leaf.comparison? = some (words, filter.2.2) := by
  obtain ⟨leaf, same, passes⟩ := filter.2.1.kind.condition_cases
    (filter.2.1.column.getD filter.1) filter.2.2
  rw [if_pos ordering] at passes
  obtain ⟨words, compares⟩ := passes
  exact ⟨leaf, mem_leaves_of_declared counts same, words, compares⟩

/-- Where the lists of a request go when it is compiled and rendered. -/
structure PlacesLists (spec : Spec) (request : ListingRequest) : Prop where
  kinds : ∀ leaf ∈ (spec.compile request).leaves,
    leaf.isMembership = true ∨ ∃ words value, leaf.comparison? = some (words, value) ∧
      leaf.args = [value]
  /-- lists meet `IN` only, if and only if no ordering filter is given one -/
  confined_iff : (∀ leaf ∈ (spec.compile request).leaves, ∀ value ∈ leaf.args,
      value.isList = true → leaf.isMembership = true) ↔
    ∀ filter ∈ spec.declared request, filter.2.1.kind.isOrdering → filter.2.2.isList = false
  /-- an operator has one expression behind it, unless an ordering filter is given a list that does
  not take one slot -/
  single_iff : (∀ leaf ∈ (spec.compile request).leaves, ∀ words value,
      leaf.comparison? = some (words, value) → ∀ (dialect : Dialect) (before : Nat),
        (dialect.slotsText before value.slots).length = 1) ↔
    ∀ filter ∈ spec.declared request, filter.2.1.kind.isOrdering → filter.2.2.slots.length = 1
  /-- those expressions stand behind the operator, in the place of its question mark -/
  written : (∀ leaf ∈ (spec.compile request).leaves, leaf.TakesArguments) →
    ∀ (dialect : Dialect) (first rest : List Leaf) (leaf : Leaf) (words : String) (value : Value),
      (spec.compile request).leaves = first ++ leaf :: rest →
      leaf.comparison? = some (words, value) →
      ∃ before after tail, (spec.compile request).compile.sql = before ++ words ++ "?" ++ after ∧
        ((spec.compile request).compile.render dialect).sql =
          (Fragment.render ⟨before, first.flatMap Leaf.args⟩ dialect).sql ++ words ++
            ", ".intercalate (dialect.slotsText (scalars (first.flatMap Leaf.args)).length
              value.slots) ++ tail

/-- Lists meet `IN` only and every other operator has one expression behind it, except that an
ordering filter passes on a list and has as many expressions as the list takes slots. -/
theorem compile_places_lists (spec : Spec) (request : ListingRequest) :
    spec.PlacesLists request := by
  constructor
  case kinds =>
    intro leaf member
    refine (origin_of_compile member).imp_right fun ⟨words, value, compares, _⟩ => ?_
    exact ⟨words, value, compares, (Leaf.of_comparison? compares).2.1⟩
  case confined_iff =>
    constructor
    · intro confined filter counts ordering
      obtain ⟨leaf, member, words, compares⟩ := ordering_of_declared counts ordering
      obtain ⟨other, args, _⟩ := Leaf.of_comparison? compares
      refine Bool.eq_false_iff.2 fun list => ?_
      have inside := confined leaf member filter.2.2 (by simp [args]) list
      rw [other] at inside
      contradiction
    · intro scalars leaf member value given list
      rcases origin_of_compile member with inside | ⟨words, side, compares, origin⟩
      · exact inside
      rw [(Leaf.of_comparison? compares).2.1, List.mem_singleton] at given
      subst given
      rcases origin with scalar | ⟨filter, counts, ordering, rfl⟩
      · rw [scalar] at list
        contradiction
      · rw [scalars filter counts ordering] at list
        contradiction
  case single_iff =>
    simp only [Dialect.length_slotsText]
    constructor
    · intro single filter counts ordering
      obtain ⟨leaf, member, words, compares⟩ := ordering_of_declared counts ordering
      exact single leaf member words filter.2.2 compares .generic 0
    · intro single leaf member words value compares _ _
      rcases origin_of_compile member with inside | ⟨words', side, compares', origin⟩
      · rw [(Leaf.of_comparison? compares).1] at inside
        contradiction
      obtain ⟨_, rfl⟩ := Prod.mk.inj (Option.some.inj (compares.symm.trans compares'))
      rcases origin with scalar | ⟨filter, counts, ordering, rfl⟩
      · exact Value.length_slots scalar
      · exact single filter counts ordering
  case written =>
    intro takes dialect first rest leaf words value listed compares
    obtain ⟨_, _, layout, blank⟩ := Leaf.of_comparison? compares
    obtain ⟨same, closed, _⟩ := Condition.layout_spec takes
    have has := Condition.has_layout takes listed (by simp [layout, blank])
    rw [layout] at has
    rw [← same]
    exact has.render closed dialect

/-- People, filtered by their age. -/
def aged : Spec := { Spec.empty with filterable := .ofList [("age", ⟨none, .gt⟩)] }

theorem compile_places_lists_of_adults :
    let adults := ListingRequest.default.filter "age" (.int 18)
    ∃ before after tail, (aged.compile adults).compile.sql = before ++ "age > " ++ "?" ++ after ∧
      ((aged.compile adults).compile.render .postgres).sql =
        (Fragment.render ⟨before, []⟩ .postgres).sql ++ "age > " ++
          ", ".intercalate (Dialect.postgres.slotsText 0 [some (.int 18)]) ++ tail := by
  intro adults
  have plain : (Leaf.compare "age" .gt (.int 18)).TakesArguments := by
    rintro column ⟨⟩
    decide
  exact (aged.compile_places_lists adults).written (List.forall_mem_singleton.2 plain) .postgres
    [] [] (.compare "age" .gt (.int 18)) "age > " (.int 18) rfl rfl

/-- A list of ages stands behind `>` as two expressions. -/
theorem list_meets_ordering :
    let request := ListingRequest.default.filter "age" (.list [.int 1, .int 2])
    (∃ leaf ∈ (aged.compile request).leaves, ∃ value ∈ leaf.args,
      value.isList = true ∧ leaf.isMembership = false) ∧
    ((aged.compile request).compile.render .generic).sql = "age > ?, ?" ∧
    ((aged.compile request).compile.render .postgres).sql = "age > $1, $2" := by
  refine ⟨⟨_, List.mem_singleton_self _, _, List.mem_singleton_self _, rfl, rfl⟩, ?_, ?_⟩ <;>
    decide +kernel

end Spec

end DataAccess
