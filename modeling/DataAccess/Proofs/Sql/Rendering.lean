import DataAccess.Proofs.Sql.Layout

/-! Rendering any text with any arguments. Quotes may be left open, and there may be more arguments
than question marks or fewer. A text is cut at its question marks outside quotes; each takes the
next argument and is written as the leaves of that argument, and what stands between them is
copied. -/
namespace DataAccess

/-- A text whose quoted regions are all complete, so that what follows it is outside quotes. A
doubled quote completes one region and begins the next. -/
inductive Balanced : List Char → Prop
  | nil : Balanced []
  | plain {c : Char} {rest : List Char} (unquoted : isQuote c = false) (behind : Balanced rest) :
    Balanced (c :: rest)
  | region {quote : Char} {inside rest : List Char} (quotes : isQuote quote = true)
    (kept : quote ∉ inside) (behind : Balanced rest) :
    Balanced (quote :: (inside ++ quote :: rest))

/-- A text without a question mark outside quotes. -/
def Unmarked (text : List Char) : Prop :=
  ∀ before behind, text = before ++ '?' :: behind → ¬Balanced before

namespace QuoteState

theorem after_cons (state : QuoteState) (c : Char) (rest : List Char) :
    state.after (c :: rest) = (state.next c).after rest := rfl

theorem next_of_unquoted {c : Char} (unquoted : isQuote c = false) : next none c = none := by
  simp [next, unquoted]

theorem next_of_quote {quote : Char} (quotes : isQuote quote = true) :
    next none quote = some quote := by
  simp [next, quotes]

theorem marks_eq_zero_iff {state : QuoteState} {text : List Char} :
    state.marks text = 0 ↔
      ∀ before behind, text = before ++ '?' :: behind → state.after before ≠ none := by
  induction text generalizing state with
  | nil => simp [marks]
  | cons c rest ih =>
    rw [marks, Nat.add_eq_zero_iff, ih]
    constructor
    · rintro ⟨here, later⟩ before behind same
      cases before with
      | nil =>
        obtain ⟨rfl, rfl⟩ := List.cons_eq_cons.1 same
        intro outside
        have marked : state = none := outside
        simp [marked] at here
      | cons d before =>
        obtain ⟨rfl, tail⟩ := List.cons_eq_cons.1 same
        exact later before behind tail
    · intro quoted
      constructor
      · rw [if_neg]
        rintro ⟨outside, rfl⟩
        exact quoted [] rest rfl outside
      · intro before behind same
        exact quoted (c :: before) behind (by rw [same]; rfl)

theorem marks_of_not_mem {text : List Char} (absent : '?' ∉ text) (state : QuoteState) :
    state.marks text = 0 :=
  marks_eq_zero_iff.2 fun before behind same _ => absent (by simp [same])

end QuoteState

/-- A text cut at its question marks outside quotes: what stands in front of each of them, and what
stands behind the last one, where quotes may be left open. -/
structure MarkedText where
  texts : List String
  last : String
  balanced : ∀ text ∈ texts, Balanced text.toList
  unmarked : ∀ text ∈ texts, Unmarked text.toList
  silent : Unmarked last.toList

namespace MarkedText

def sql (marked : MarkedText) : String :=
  String.join (marked.texts.map (· ++ "?")) ++ marked.last

end MarkedText

/-- Whether a value is bound as it stands: it is neither null nor a list. -/
def Value.isScalar : Value → Bool
  | .null => false
  | .list _ => false
  | _ => true

/-- Scalars are bound as they stand. -/
theorem scalars_of_isScalar {values : List Value} (scalar : ∀ value ∈ values, value.isScalar) :
    scalars values = values := by
  induction values with
  | nil => rfl
  | cons value rest ih =>
    obtain ⟨here, later⟩ := List.forall_mem_cons.1 scalar
    have alone : scalars (value :: rest) = value :: scalars rest := by
      cases value <;> first | rfl | cases here
    rw [alone, ih later]

mutual

/-- The leaves of nested lists from left to right. An empty list is a leaf of its own. -/
def Value.leaves : Value → List Value
  | .list (item :: rest) => item.leaves ++ itemLeaves rest
  | value => [value]

def itemLeaves : List Value → List Value
  | [] => []
  | item :: rest => item.leaves ++ itemLeaves rest

end

mutual

/-- A leaf is bound as it stands, or it is null or an empty list. -/
theorem Value.leaf_cases : (value : Value) → ∀ leaf ∈ value.leaves,
    leaf.isScalar = true ∨ leaf = .null ∨ leaf = .list []
  | .null => by simp [Value.leaves]
  | .list [] => by simp [Value.leaves]
  | .bool _ | .int _ | .uint _ | .float _ | .text _ | .json _ => by simp [Value.leaves, Value.isScalar]
  | .list (item :: rest) => by
    intro leaf member
    rw [Value.leaves, List.mem_append] at member
    rcases member with first | later
    · exact item.leaf_cases leaf first
    · exact itemLeaf_cases rest leaf later

theorem itemLeaf_cases : (items : List Value) → ∀ leaf ∈ itemLeaves items,
    leaf.isScalar = true ∨ leaf = .null ∨ leaf = .list []
  | [] => by simp [itemLeaves]
  | item :: rest => by
    intro leaf member
    rw [itemLeaves, List.mem_append] at member
    rcases member with first | later
    · exact item.leaf_cases leaf first
    · exact itemLeaf_cases rest leaf later

end

/-- What is bound for arguments: the scalars among their leaves. -/
def leafScalars (args : List Value) : List Value :=
  (args.flatMap Value.leaves).filter Value.isScalar

def Value.slot (leaf : Value) : Option Value := if leaf.isScalar then some leaf else none

mutual

theorem Value.slots_eq : (value : Value) → value.slots = value.leaves.map Value.slot
  | .null | .bool _ | .int _ | .uint _ | .float _ | .text _ | .json _ | .list [] => rfl
  | .list (item :: rest) => by
    rw [Value.slots, Value.leaves, List.map_append, item.slots_eq, itemSlots_eq rest]

theorem itemSlots_eq : (items : List Value) → itemSlots items = (itemLeaves items).map Value.slot
  | [] => rfl
  | item :: rest => by
    rw [itemSlots, itemLeaves, List.map_append, item.slots_eq, itemSlots_eq rest]

end

namespace Dialect

/-- The text of an argument when `before` arguments are bound before it: its leaves, separated by
commas, each scalar as the placeholder of the number that it is bound under. -/
def expansion (dialect : Dialect) (before : Nat) (value : Value) : String :=
  ", ".intercalate (value.leaves.mapIdx fun k leaf =>
    if leaf.isScalar then
      dialect.placeholder (before + (value.leaves.take k).countP Value.isScalar + 1)
    else "NULL")

/-- What is written for the question mark at a position. Beyond the arguments it stays. -/
def written (dialect : Dialect) (args : List Value) (position : Nat) : String :=
  match args[position]? with
  | some value => dialect.expansion (leafScalars (args.take position)).length value
  | none => "?"

end Dialect

namespace MarkedText

end MarkedText

namespace Dialect

end Dialect

namespace MarkedText

end MarkedText

namespace Dialect

/-- Text is rendered in the state that the text in front of it leaves behind: its quotes, the
number of the last placeholder and the arguments left over. -/
theorem renderFrom_append (dialect : Dialect) (state : QuoteState) (before : Nat)
    (args : List Value) (first second : List Char) :
    dialect.renderFrom state before args (first ++ second) =
      ((dialect.renderFrom state before args first).1 ++
          (dialect.renderFrom (state.after first)
            (before + (dialect.renderFrom state before args first).2.length)
            (args.drop (state.marks first)) second).1,
        (dialect.renderFrom state before args first).2 ++
          (dialect.renderFrom (state.after first)
            (before + (dialect.renderFrom state before args first).2.length)
            (args.drop (state.marks first)) second).2) := by
  induction first generalizing state before args with
  | nil => cases args <;> rfl
  | cons c rest ih =>
    by_cases mark : state = none ∧ c = '?'
    · obtain ⟨rfl, rfl⟩ := mark
      have marks : QuoteState.marks none ('?' :: rest) = QuoteState.marks none rest + 1 := by
        rw [QuoteState.marks, if_pos ⟨rfl, rfl⟩, Nat.add_comm]
        rfl
      have outside : QuoteState.after none ('?' :: rest) = QuoteState.after none rest := rfl
      rw [List.cons_append, marks, outside]
      cases args with
      | nil =>
        rw [renderFrom, renderFrom, if_pos ⟨rfl, rfl⟩, if_pos ⟨rfl, rfl⟩, ih]
        simp only [List.drop_nil, List.cons_append]
      | cons value args =>
        rw [renderFrom, renderFrom, if_pos ⟨rfl, rfl⟩, if_pos ⟨rfl, rfl⟩]
        simp only [ih, List.drop_succ_cons, List.append_assoc, List.length_append,
          Nat.add_assoc]
    · have marks : state.marks (c :: rest) = (state.next c).marks rest := by
        rw [QuoteState.marks, if_neg mark, Nat.zero_add]
      rw [List.cons_append, marks, QuoteState.after_cons, renderFrom.eq_def, renderFrom.eq_def]
      simp only [if_neg mark, ih, List.cons_append]

theorem renderFrom_nil (dialect : Dialect) (state : QuoteState) (before : Nat)
    (text : List Char) : dialect.renderFrom state before [] text = (text, []) := by
  induction text generalizing state with
  | nil => rfl
  | cons c rest ih =>
    rw [renderFrom.eq_def]
    simp only [ih]
    split
    · next mark => rw [mark.2]
    · rfl

end Dialect

example : Dialect.postgres.render "a IN (?) OR b = '?' OR c = ? OR d = ?"
    [.list [.int 1, .list [], .list [.null, .int 2]], .int 3] =
    ⟨"a IN ($1, NULL, NULL, $2) OR b = '?' OR c = $3 OR d = ?", [.int 1, .int 2, .int 3]⟩ := rfl

end DataAccess
