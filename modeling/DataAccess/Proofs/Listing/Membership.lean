import DataAccess.Proofs.Listing.Lists
import DataAccess.Proofs.Sql.Members
import DataAccess.Proofs.Storage.Tuple

/-! Filters by lists, as a backend evaluates them. What is rendered for a list of any depth is a flat
list, with a null for each null and each empty list in it. A comparison with null is unknown: to `IN`
this is no reason to keep a row, and with `NOT IN` it is a reason not to keep any. -/
namespace DataAccess

open Sql

namespace Truth

def not : Truth → Truth
  | no => yes
  | unknown => unknown
  | yes => no

theorem not_eq_yes {truth : Truth} : truth.not = yes ↔ truth = no := by
  cases truth <;> simp [not]

theorem sup_eq_yes {first second : Truth} : first ⊔ second = yes ↔ first = yes ∨ second = yes := by
  cases first <;> cases second <;> decide

theorem sup_eq_no {first second : Truth} : first ⊔ second = no ↔ first = no ∧ second = no := by
  cases first <;> cases second <;> decide

end Truth

/-- Whether a datum equals one of some values: one comparison or another. It is not null itself, so
only a null among the values is compared to no avail. -/
def memberTruth (equal : Value → Bool) : List (Option Value) → Truth
  | [] => .no
  | none :: rest => .unknown ⊔ memberTruth equal rest
  | some value :: rest => (if equal value then .yes else .no) ⊔ memberTruth equal rest

theorem memberTruth_eq_yes {equal : Value → Bool} {values : List (Option Value)} :
    memberTruth equal values = .yes ↔ ∃ value, some value ∈ values ∧ equal value := by
  induction values with
  | nil => simp [memberTruth]
  | cons slot rest ih =>
    cases slot with
    | none => simp [memberTruth, Truth.sup_eq_yes, ih]
    | some value =>
      rw [memberTruth, Truth.sup_eq_yes, ih]
      cases same : equal value <;> simp [same, or_and_right, exists_or]

theorem memberTruth_eq_no {equal : Value → Bool} {values : List (Option Value)} :
    memberTruth equal values = .no ↔
      none ∉ values ∧ ∀ value, some value ∈ values → equal value = false := by
  induction values with
  | nil => simp [memberTruth]
  | cons slot rest ih =>
    cases slot with
    | none => simp [memberTruth, Truth.sup_eq_no]
    | some value =>
      rw [memberTruth, Truth.sup_eq_no, ih]
      cases same : equal value <;> simp [same, or_imp, forall_and]

/-- The slots of a list are the scalars in it, and a null for each of its other leaves. -/
theorem mem_slots_list {items : List Value} (nonempty : items ≠ []) :
    (∀ value, some value ∈ (Value.list items).slots ↔
      value ∈ itemLeaves items ∧ value.isScalar = true) ∧
    (none ∈ (Value.list items).slots ↔ ∃ leaf ∈ itemLeaves items, leaf.isScalar = false) := by
  obtain ⟨item, rest, rfl⟩ := List.exists_cons_of_ne_nil nonempty
  rw [Value.slots_eq]
  have leaves : (Value.list (item :: rest)).leaves = itemLeaves (item :: rest) := rfl
  rw [leaves]
  simp only [List.mem_map, Value.slot]
  constructor
  · intro value
    constructor
    · rintro ⟨leaf, member, same⟩
      split at same
      · next scalar =>
        obtain rfl := Option.some.inj same
        exact ⟨member, scalar⟩
      · contradiction
    · rintro ⟨member, scalar⟩
      exact ⟨value, member, if_pos scalar⟩
  · constructor
    · rintro ⟨leaf, member, same⟩
      split at same
      · contradiction
      · next other => exact ⟨leaf, member, Bool.eq_false_iff.2 other⟩
    · rintro ⟨leaf, member, other⟩
      exact ⟨leaf, member, by simp [other]⟩

namespace Dialect

variable (dialect : Dialect)

/-- The argument that a placeholder stands for, with `marks` question marks in front of it. A
numbered placeholder stands for the argument of its number. -/
def argument? (args : List Value) (marks : Nat) (token : Token) : Option Value :=
  match token with
  | .mark '?' => if dialect = .postgres then none else args[marks]?
  | .word ('$' :: digits) =>
    if dialect = .postgres ∧ digits.all Char.isDigit then
      match Nat.ofDigitChars 10 digits 0 with
      | 0 => none
      | position + 1 => args[position]?
    else none
  | _ => none

/-- The values that the members of a list stand for. -/
def values? (args : List Value) : Nat → List (List Token) → Option (List (Option Value))
  | _, [] => some []
  | marks, [token] :: rest =>
    if token = nullToken then (values? args marks rest).map (none :: ·)
    else do
      let value ← dialect.argument? args marks token
      let others ← values? args (marks + 1) rest
      return some value :: others
  | _, _ => none

theorem argument?_placeholder {front back : List Value} (value : Value) {marks : Nat}
    (counted : dialect ≠ .postgres → marks = front.length) :
    dialect.argument? (front ++ value :: back) marks
      (dialect.placeholderToken (front.length + 1)) = some value := by
  have present : (front ++ value :: back)[front.length]? = some value := by simp
  by_cases postgres : dialect = .postgres
  · have token : dialect.placeholderToken (front.length + 1) =
        .word ('$' :: (toString (front.length + 1)).toList) := if_pos postgres
    have digits : (toString (front.length + 1)).toList.all Char.isDigit :=
      List.all_eq_true.2 fun c member => isDigit_of_mem_toString member
    have number : Nat.ofDigitChars 10 (toString (front.length + 1)).toList 0 =
        front.length + 1 := by
      rw [Nat.toString_eq_repr, Nat.toList_repr, Nat.ofDigitChars_ten_toDigits]
    rw [token, argument?, if_pos ⟨postgres, digits⟩, number]
    exact present
  · have token : dialect.placeholderToken (front.length + 1) = .mark '?' := if_neg postgres
    rw [token, argument?, if_neg postgres, counted postgres]
    exact present

theorem placeholderToken_ne_null (position : Nat) :
    dialect.placeholderToken position ≠ nullToken := by
  unfold placeholderToken nullToken
  split
  · intro same
    have first : some '$' = some 'N' := congrArg List.head? (Token.word.inj same)
    exact absurd first (by decide)
  · nofun

/-- The members that are written for slots stand for them. -/
theorem values?_slotTokens (slots : List (Option Value)) (front back : List Value) {marks : Nat}
    (counted : dialect ≠ .postgres → marks = front.length) :
    dialect.values? (front ++ slots.filterMap id ++ back) marks
      ((dialect.slotTokens front.length slots).map ([·])) = some slots := by
  induction slots generalizing front marks with
  | nil => rfl
  | cons slot rest ih =>
    cases slot with
    | none =>
      rw [slotTokens, List.map_cons, values?, if_pos rfl]
      exact congrArg (Option.map (none :: ·)) (ih front counted)
    | some value =>
      have args : front ++ (some value :: rest).filterMap id ++ back =
          front ++ value :: (rest.filterMap id ++ back) := by simp
      have split : front ++ value :: (rest.filterMap id ++ back) =
          (front ++ [value]) ++ rest.filterMap id ++ back := by simp
      have next : dialect ≠ .postgres → marks + 1 = (front ++ [value]).length :=
        fun other => by simp [counted other]
      have later := ih (front ++ [value]) next
      rw [List.length_append, List.length_singleton] at later
      rw [args, slotTokens, List.map_cons, values?, if_neg (dialect.placeholderToken_ne_null _),
        dialect.argument?_placeholder value counted, split, later]
      rfl

end Dialect

namespace Sql

/-- The members of the list in parentheses behind some words, to the end of a text. -/
def listBehind? (words text : String) : Option (List (List Token)) :=
  (text.toList.dropPrefix? words.toList).bind fun rest =>
    if rest.getLast? = some ')' then members? (String.ofList rest.dropLast) else none

theorem listBehind?_eq (words list : String) :
    listBehind? words (words ++ list ++ ")") = members? list := by
  have text : (words ++ list ++ ")").toList = words.toList ++ (list.toList ++ [')']) := by simp
  have dropped : (words ++ list ++ ")").toList.dropPrefix? words.toList =
      some (list.toList ++ [')']) :=
    List.dropPrefix?_eq_some_iff.2 ⟨words.toList, text, beq_self_eq_true _⟩
  rw [listBehind?, dropped]
  simp

theorem listBehind?_eq_none {words text : String}
    (other : ∀ rest, text.toList ≠ words.toList ++ rest) : listBehind? words text = none := by
  have dropped : text.toList.dropPrefix? words.toList = none := by
    refine Option.eq_none_iff_forall_ne_some.2 fun rest found => ?_
    obtain ⟨front, parts, same⟩ := List.dropPrefix?_eq_some_iff.1 found
    obtain rfl := eq_of_beq same
    exact other rest parts
  rw [listBehind?, dropped]
  rfl

end Sql

namespace Dialect

/-- The truth of a membership on a row, whose column has a datum that is not null. In front of it, the
text has the question marks of other arguments. -/
def membership? (dialect : Dialect) (args : List Value) (front column : String)
    (equal : Value → Bool) (text : String) : Option Truth :=
  let truth? (members : List (List Token)) :=
    (dialect.values? args (QuoteState.marks none front.toList) members).map (memberTruth equal)
  if text = "1 = 1" then some .yes
  else match listBehind? (column ++ " IN (") text with
    | some members => truth? members
    | none => ((listBehind? (column ++ " NOT IN (") text).bind truth?).map Truth.not

theorem closed_ne_true (words : String) : words ++ ")" ≠ "1 = 1" := by
  intro same
  have last : (words.toList ++ [')']).getLast? = some '1' := by
    have letters : (words ++ ")").toList = words.toList ++ [')'] := String.toList_append
    rw [← letters, same]
    rfl
  rw [List.getLast?_concat] at last
  exact absurd last (by decide)

variable (dialect : Dialect) {args : List Value} {front : String} (equal : Value → Bool)

theorem membership?_in {list : String} (column : String) {members : List (List Token)}
    (read : members? list = some members) :
    dialect.membership? args front column equal (column ++ " IN (" ++ list ++ ")") =
      (dialect.values? args (QuoteState.marks none front.toList) members).map
        (memberTruth equal) := by
  rw [membership?, if_neg (closed_ne_true _), listBehind?_eq, read]

theorem membership?_notIn {list : String} (column : String) {members : List (List Token)}
    (read : members? list = some members) :
    dialect.membership? args front column equal (column ++ " NOT IN (" ++ list ++ ")") =
      ((dialect.values? args (QuoteState.marks none front.toList) members).map
        (memberTruth equal)).map Truth.not := by
  have negated : listBehind? (column ++ " IN (") (column ++ " NOT IN (" ++ list ++ ")") = none := by
    refine listBehind?_eq_none fun rest same => ?_
    simp [String.toList_append] at same
  rw [membership?, if_neg (closed_ne_true _), negated, listBehind?_eq, read]
  rfl

end Dialect

namespace Leaf

/-- The column of a membership and its truth on a row, whose column has a datum that is not null. -/
def membership? : Leaf → Option (String × ((Value → Bool) → Truth))
  | inList column values => some (column, fun equal => memberTruth equal (Value.list values).slots)
  | notInList column [] => some (column, fun _ => .yes)
  | notInList column (value :: values) =>
    some (column, fun equal => (memberTruth equal (Value.list (value :: values)).slots).not)
  | _ => none

/-- What is written for a membership is read as that membership. -/
theorem membership?_written {leaf : Leaf} {column : String} {truth : (Value → Bool) → Truth}
    (tests : leaf.membership? = some (column, truth)) (dialect : Dialect)
    {front back : List Value} {text : String}
    (counted : dialect ≠ .postgres → QuoteState.marks none text.toList = front.length)
    (equal : Value → Bool) :
    dialect.membership? (front ++ scalars leaf.args ++ back) text column equal
      (leaf.layout.written dialect front.length) = some (truth equal) := by
  have enclosed (words : String) (value : Value) :
      Layout.written dialect front.length [.text words, .argument value, .text ")"] =
        words ++ ", ".intercalate (dialect.slotsText front.length value.slots) ++ ")" := by
    have split : [.text words, .argument value, .text ")"] =
        .text words :: ([.argument value] ++ [.text ")"] : Layout) := rfl
    rw [split, Layout.written_text_cons, Layout.written_append, Layout.written_argument,
      String.append_assoc]
    rfl
  have read (value : Value) := dialect.members?_slotsText front.length value.slots_ne_nil
  have values (value : Value) : dialect.values? (front ++ scalars [value] ++ back)
      (QuoteState.marks none text.toList)
      ((dialect.slotTokens front.length value.slots).map ([·])) = some value.slots := by
    rw [scalars, List.flatMap_singleton]
    exact dialect.values?_slotTokens value.slots front back counted
  cases leaf with
  | inList on items =>
    obtain ⟨rfl, rfl⟩ := Prod.mk.inj (Option.some.inj tests)
    rw [layout, enclosed, dialect.membership?_in equal on (read _), args, values]
    rfl
  | notInList on items =>
    cases items with
    | nil =>
      obtain ⟨rfl, rfl⟩ := Prod.mk.inj (Option.some.inj tests)
      have alone : Layout.written dialect front.length [.text "1 = 1"] = "1 = 1" := rfl
      rw [layout, alone, Dialect.membership?, if_pos rfl]
    | cons item rest =>
      obtain ⟨rfl, rfl⟩ := Prod.mk.inj (Option.some.inj tests)
      rw [layout, enclosed, dialect.membership?_notIn equal on (read _), args, values]
      rfl
  | _ => contradiction

theorem isSpoken_of_membership? {leaf : Leaf} {column : String} {truth : (Value → Bool) → Truth}
    (tests : leaf.membership? = some (column, truth)) :
    ' ' ∈ leaf.layout.fragment.sql.toList := by
  cases leaf with
  | inList => simp [layout]
  | notInList _ items => cases items <;> simp [layout]
  | _ => contradiction

end Leaf

/-- In the place of a leaf, the rendered text of a condition is read as a membership. It is true on
the rows that are kept, whatever else the column's datum is. -/
def Condition.KeepsAt (condition : Condition) (dialect : Dialect) (leaf : Leaf) (column : String)
    (keeps : (Value → Bool) → Prop) : Prop :=
  ∃ first rest before after text tail,
    condition.leaves = first ++ leaf :: rest ∧
    condition.compile.sql = before ++ leaf.fragment ++ after ∧
    (condition.compile.render dialect).sql =
      (Fragment.render ⟨before, first.flatMap Leaf.args⟩ dialect).sql ++ text ++ tail ∧
    ∀ equal, ∃ truth,
      dialect.membership? (condition.compile.render dialect).args
        (Fragment.render ⟨before, first.flatMap Leaf.args⟩ dialect).sql column equal text =
          some truth ∧
      (truth = .yes ↔ keeps equal)

theorem Condition.keepsAt_of_membership? {condition : Condition}
    (takes : ∀ leaf ∈ condition.leaves, leaf.TakesArguments) (dialect : Dialect) {leaf : Leaf}
    (member : leaf ∈ condition.leaves) {column : String} {truth : (Value → Bool) → Truth}
    (tests : leaf.membership? = some (column, truth)) :
    condition.KeepsAt dialect leaf column fun equal => truth equal = .yes := by
  obtain ⟨first, rest, listed⟩ := List.append_of_mem member
  have has := has_layout takes listed (Leaf.isSpoken_of_membership? tests)
  obtain ⟨whole, closed, _⟩ := layout_spec takes
  have inner := (Leaf.layout_spec (takes leaf member)).1
  obtain ⟨before, after, tail, extra, sql, args, marks, rendered⟩ :=
    has.exists_render_eq closed dialect
  rw [inner, whole] at sql
  rw [inner, whole] at rendered
  refine ⟨first, rest, before, after, _, tail, listed, sql, by rw [rendered], fun equal => ?_⟩
  refine ⟨truth equal, ?_, Iff.rfl⟩
  rw [rendered]
  refine Leaf.membership?_written tests dialect (fun other => ?_) equal
  rw [marks, if_neg other]

theorem Condition.KeepsAt.congr {condition : Condition} {dialect : Dialect} {leaf : Leaf}
    {column : String} {keeps keeps' : (Value → Bool) → Prop}
    (keepsAt : condition.KeepsAt dialect leaf column keeps)
    (same : ∀ equal, keeps equal ↔ keeps' equal) :
    condition.KeepsAt dialect leaf column keeps' := by
  obtain ⟨first, rest, before, after, text, tail, listed, sql, rendered, reads⟩ := keepsAt
  refine ⟨first, rest, before, after, text, tail, listed, sql, rendered, fun equal => ?_⟩
  obtain ⟨truth, read, yes⟩ := reads equal
  exact ⟨truth, read, yes.trans (same equal)⟩

namespace Leaf

theorem inList_keeps_iff (equal : Value → Bool) (items : List Value) :
    memberTruth equal (Value.list items).slots = .yes ↔
      ∃ value ∈ itemLeaves items, value.isScalar ∧ equal value := by
  rw [memberTruth_eq_yes]
  cases items with
  | nil => simp [Value.slots, itemLeaves]
  | cons item rest =>
    simp only [(mem_slots_list (List.cons_ne_nil item rest)).1, and_assoc]

theorem notInList_keeps_iff (equal : Value → Bool) {items : List Value} (nonempty : items ≠ []) :
    (memberTruth equal (Value.list items).slots).not = .yes ↔
      (∀ value ∈ itemLeaves items, value.isScalar → equal value = false) ∧
        ∀ value ∈ itemLeaves items, value.isScalar := by
  obtain ⟨some_, none_⟩ := mem_slots_list nonempty
  rw [Truth.not_eq_yes, memberTruth_eq_no, and_comm]
  simp only [some_, none_, and_imp, not_exists, not_and, Bool.not_eq_false]

end Leaf

namespace Spec

/-- The rows that a filter by a list keeps, given which values equal the datum of a row. What the list
holds at any depth counts. -/
structure KeepsByList (spec : Spec) (request : ListingRequest) (dialect : Dialect) (key : String)
    (field : FilterField) (items : List Value) : Prop where
  /-- those with a datum in the list -/
  included : field.kind = .in ∨ field.kind = .equal →
    (spec.compile request).KeepsAt dialect (.inList (field.column.getD key) items)
      (field.column.getD key) fun equal => ∃ value ∈ itemLeaves items, value.isScalar ∧ equal value
  /-- the others, if there are only scalars in the list -/
  excluded : field.kind = .notIn → (items = [] ∨ ∀ value ∈ itemLeaves items, value.isScalar) →
    (spec.compile request).KeepsAt dialect (.notInList (field.column.getD key) items)
      (field.column.getD key) fun equal => ∀ value ∈ itemLeaves items, equal value = false
  /-- none, if there is a null or an empty list in it -/
  emptied : field.kind = .notIn → items ≠ [] → (∃ value ∈ itemLeaves items, ¬value.isScalar) →
    (spec.compile request).KeepsAt dialect (.notInList (field.column.getD key) items)
      (field.column.getD key) fun _ => False

/-- A filter that includes what is in a list and one that excludes it share the rows between them
unless a null or an empty list is in the list, which is not empty itself: then there is no row that
the second one keeps. -/
theorem filters_keep_by_list {spec : Spec} {request : ListingRequest} {key : String}
    {field : FilterField} {items : List Value} (declared : spec.filterable.get? key = some field)
    (given : request.filters.get? key = some (.list items))
    (takes : ∀ leaf ∈ (spec.compile request).leaves, leaf.TakesArguments) (dialect : Dialect) :
    spec.KeepsByList request dialect key field items := by
  have counts : (key, field, .list items) ∈ spec.declared request :=
    mem_declared.2 ⟨declared, given, rfl⟩
  have excludes (kind : field.kind = .notIn) :
      .notInList (field.column.getD key) items ∈ (spec.compile request).leaves :=
    mem_leaves_of_declared counts (by rw [filterCondition, kind]; rfl)
  constructor
  case included =>
    intro kind
    have present : .inList (field.column.getD key) items ∈ (spec.compile request).leaves :=
      mem_leaves_of_declared counts
        (by rcases kind with kind | kind <;> rw [filterCondition, kind] <;> rfl)
    exact (Condition.keepsAt_of_membership? takes dialect present rfl).congr fun equal =>
      Leaf.inList_keeps_iff equal items
  case excluded =>
    intro kind scalars
    have present := excludes kind
    cases items with
    | nil =>
      refine (Condition.keepsAt_of_membership? takes dialect present rfl).congr fun equal => ?_
      simp [itemLeaves]
    | cons item rest =>
      have scalars := scalars.resolve_left (List.cons_ne_nil item rest)
      refine (Condition.keepsAt_of_membership? takes dialect present rfl).congr fun equal => ?_
      rw [Leaf.notInList_keeps_iff equal (List.cons_ne_nil item rest), and_iff_left scalars]
      exact forall₂_congr fun value listed => forall_prop_of_true (scalars value listed)
  case emptied =>
    rintro kind nonempty ⟨value, listed, other⟩
    have present := excludes kind
    obtain ⟨item, rest, rfl⟩ := List.exists_cons_of_ne_nil nonempty
    refine (Condition.keepsAt_of_membership? takes dialect present rfl).congr fun equal => ?_
    rw [Leaf.notInList_keeps_iff equal nonempty, iff_false]
    exact fun kept => other (kept.2 value listed)

/-- People of other ages. -/
def ageless : Spec := { Spec.empty with filterable := .ofList [("age", ⟨none, .notIn⟩)] }

theorem filters_keep_by_list_of_ageless :
    let request := ListingRequest.default.filter "age" (.list [.int 1, .list [.int 2]])
    ((ageless.compile request).compile.render .postgres).sql = "age NOT IN ($1, $2)" ∧
    (ageless.compile request).KeepsAt .postgres (.notInList "age" [.int 1, .list [.int 2]]) "age"
      fun equal => ∀ value ∈ itemLeaves [.int 1, .list [.int 2]], equal value = false := by
  intro request
  have plain : (Leaf.notInList "age" [.int 1, .list [.int 2]]).TakesArguments := by
    rintro column ⟨⟩
    decide
  refine ⟨by decide +kernel, ?_⟩
  have declared : ageless.filterable.get? "age" = some ⟨none, .notIn⟩ := rfl
  have given : request.filters.get? "age" = some (.list [.int 1, .list [.int 2]]) := rfl
  have keeps := filters_keep_by_list declared given (List.forall_mem_singleton.2 plain) .postgres
  exact keeps.excluded rfl (.inr (by decide))

/-- A row of age 2 is not kept by a filter that excludes the age 1 and null, nor by one that excludes
a list without any age in it. -/
theorem null_excludes_other_rows :
    let listed (items : List Value) := ListingRequest.default.filter "age" (.list items)
    let two (value : Value) : Bool := value.toText == "2"
    (∀ value ∈ itemLeaves [.int 1, .null] ++ itemLeaves [.list []], two value = false) ∧
    ((ageless.compile (listed [.int 1, .null])).compile.render .generic).sql =
      "age NOT IN (?, NULL)" ∧
    Dialect.generic.membership? [.int 1] "" "age" two "age NOT IN (?, NULL)" = some .unknown ∧
    ((ageless.compile (listed [.list []])).compile.render .generic).sql = "age NOT IN (NULL)" ∧
    Dialect.generic.membership? [] "" "age" two "age NOT IN (NULL)" = some .unknown := by
  decide +kernel

end Spec

end DataAccess
