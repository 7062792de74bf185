import DataAccess.Proofs.Sql.Composition
import DataAccess.Sql.Condition

/-! Compiled conditions as a backend reads them. The text of a condition is a chain of units that
follows from the texts of its leaves: an operand of a chain is one unit, whatever it holds, while a
raw fragment that stands alone or first in a chain is read along with what follows it. -/
namespace DataAccess

open Sql

/-- A text that a comparison can begin with: a column, a call, an expression in parentheses. It has
no connective and no `BETWEEN` outside parentheses. -/
def Sql.isOperand (text : String) : Bool :=
  match items? text with
  | some items => !items.isEmpty && items.all Item.isPlain
  | none => false

namespace Leaf

def column? : Leaf → Option String
  | compare column _ _ => some column
  | inList column _ => some column
  | notInList column _ => some column
  | like column _ => some column
  | likeLowered column _ => some column
  | isNull column => some column
  | isNotNull column => some column
  | between column _ _ => some column
  | notBetween column _ _ => some column
  | raw _ _ => none

/-- The two sides of a leaf that is not raw: an operand, and what is said of it. -/
def sides? : Leaf → Option (String × String)
  | compare column comparison _ => some (column, comparison.symbol ++ " ?")
  | inList column _ => some (column, "IN (?)")
  | notInList _ [] => some ("1", "= 1")
  | notInList column (_ :: _) => some (column, "NOT IN (?)")
  | like column _ => some (column, "LIKE ?")
  | likeLowered column _ => some ("LOWER" ++ "(" ++ column ++ ")", "LIKE ?")
  | isNull column => some (column, "IS NULL")
  | isNotNull column => some (column, "IS NOT NULL")
  | between column _ _ => some (column, "BETWEEN ? AND ?")
  | notBetween column _ _ => some (column, "NOT BETWEEN ? AND ?")
  | raw _ _ => none

/-- The text of a leaf as a part of a chain, where a pair of parentheses around nothing counts as
nothing. -/
def text (leaf : Leaf) : String := (Fragment.orBlank ⟨leaf.fragment, leaf.args⟩).sql

def units (leaf : Leaf) : List (Connective × Formula Atom) := (units? .and leaf.text).getD []

/-- The atom of a leaf that is not raw. -/
def atom (leaf : Leaf) : Atom := (tokens? leaf.fragment.toList).getD []

/-- A leaf on a column that can stand in a comparison, or a raw fragment that is a predicate or says
nothing. -/
def IsWellFormed (leaf : Leaf) : Prop :=
  match leaf.column? with
  | some column => isOperand column
  | none => leaf.text = "" ∨ (parse? leaf.text).isSome

end Leaf

namespace Condition

def leaves : Condition → List Leaf
  | empty => []
  | leaf l => [l]
  | group operand => operand.leaves
  | join chain _ operand => chain.leaves ++ operand.leaves

end Condition

namespace Condition

/-- The units of a condition, given those of its leaves. -/
def units {α : Type} (read : Leaf → List (Connective × Formula α)) :
    Condition → List (Connective × Formula α)
  | empty => []
  | leaf l => read l
  | group operand => asUnit .and (operand.units read)
  | join chain connective operand => joinUnits connective (operand.units read) (chain.units read)

end Condition

/-- A text behind an operand that completes it to a comparison. -/
def Sql.IsTail (text : String) : Prop :=
  ∃ items, items? text = some items ∧ items ≠ [] ∧
    ∀ connective, operands? connective 0 items = some [(connective, items)]

theorem units?_comparison {operand tail : String} (column : isOperand operand)
    (behind : IsTail tail) (connective : Connective) :
    units? connective (operand ++ " " ++ tail) =
      some [(connective, .atom ((tokens? (operand ++ " " ++ tail).toList).getD []))] := by
  obtain ⟨items, readTail, nonempty, whole⟩ := behind
  unfold isOperand at column
  split at column
  · next first read =>
    simp only [Bool.and_eq_true, Bool.not_eq_true', List.isEmpty_eq_false_iff, List.all_eq_true]
      at column
    have together := items?_blank read readTail
    rw [units?, if_neg, together, Option.bind_some,
      unitsOf?_atom column.2 column.1 nonempty (whole connective), tokens?_of_items? together]
    · rfl
    · intro blank
      simpa using congrArg String.toList blank
  · contradiction

theorem isOperand_lower {operand : String} (column : isOperand operand) :
    isOperand ("LOWER" ++ "(" ++ operand ++ ")") := by
  unfold isOperand at column ⊢
  split at column
  · rw [items?_parentheses "LOWER" rfl ‹_›]
    rfl
  · contradiction

/-- What stands behind the operand in the text of a leaf. -/
def leafTails : List String :=
  ["= ?", "!= ?", "> ?", ">= ?", "< ?", "<= ?", "IN (?)", "NOT IN (?)", "LIKE ?", "IS NULL",
    "IS NOT NULL", "BETWEEN ? AND ?", "NOT BETWEEN ? AND ?", "= 1"]

theorem isTail_of_mem {tail : String} (member : tail ∈ leafTails) : IsTail tail := by
  have whole (text : String) (items : List Item) (read : items? text = some items)
      (nonempty : items ≠ [])
      (and : operands? .and 0 items = some [(.and, items)]) : IsTail text :=
    ⟨items, read, nonempty, fun connective => by rw [operands?_retie .and, and]; rfl⟩
  simp only [leafTails, List.mem_cons, List.not_mem_nil, or_false] at member
  rcases member with rfl | rfl | rfl | rfl | rfl | rfl | rfl | rfl | rfl | rfl | rfl | rfl | rfl |
    rfl <;> exact whole _ _ rfl (List.cons_ne_nil _ _) rfl

namespace Leaf

theorem fragment_of_sides {leaf : Leaf} {operand tail : String}
    (split : leaf.sides? = some (operand, tail)) : leaf.fragment = operand ++ " " ++ tail := by
  cases leaf with
  | notInList column values => cases values <;> cases split <;> simp [fragment, String.append_assoc]
  | likeLowered column pattern =>
    cases split
    simp only [fragment, String.append_assoc]
    rfl
  | compare column comparison value =>
    cases split
    simp only [fragment, String.append_assoc]
  | raw sql args => contradiction
  | _ =>
    cases split
    simp only [fragment, String.append_assoc]
    rfl

theorem sides_of_column {leaf : Leaf} {column : String} (named : leaf.column? = some column)
    (operand : isOperand column) :
    ∃ first tail, leaf.sides? = some (first, tail) ∧ isOperand first ∧ tail ∈ leafTails := by
  cases leaf with
  | compare _ comparison _ =>
    cases named
    exact ⟨_, _, rfl, operand, by cases comparison <;> simp [Comparison.symbol, leafTails]⟩
  | notInList _ values =>
    cases named
    cases values with
    | nil => exact ⟨_, _, rfl, rfl, by simp [leafTails]⟩
    | cons => exact ⟨_, _, rfl, operand, by simp [leafTails]⟩
  | likeLowered _ _ =>
    cases named
    exact ⟨_, _, rfl, isOperand_lower operand, by simp [leafTails]⟩
  | raw _ _ => contradiction
  | _ =>
    cases named
    exact ⟨_, _, rfl, operand, by simp [leafTails]⟩

theorem units?_fragment {leaf : Leaf} {column : String} (named : leaf.column? = some column)
    (operand : isOperand column) (connective : Connective) :
    units? connective leaf.fragment = some [(connective, .atom leaf.atom)] := by
  obtain ⟨first, tail, split, operand, known⟩ := sides_of_column named operand
  unfold atom
  rw [fragment_of_sides split]
  exact units?_comparison operand (isTail_of_mem known) connective

end Leaf

/-- A text with a unit is neither empty nor a pair of parentheses around nothing. -/
theorem orBlank_of_units? (fragment : Fragment) {connective : Connective}
    {units : List (Connective × Formula Atom)} (read : units? connective fragment.sql = some units)
    (nonempty : units ≠ []) : fragment.sql ≠ "" ∧ fragment.orBlank = fragment := by
  have blank : fragment.sql ≠ "" := by
    intro blank
    rw [blank] at read
    exact nonempty (Option.some.inj read).symm
  have hollow : fragment.sql ≠ "()" := by
    intro hollow
    rw [hollow] at read
    cases connective <;> contradiction
  exact ⟨blank, by rw [Fragment.orBlank, if_neg (by simp [blank, hollow])]⟩

namespace Leaf

theorem units?_text_of_column {leaf : Leaf} {column : String} (named : leaf.column? = some column)
    (operand : isOperand column) :
    units? .and leaf.text = some [(.and, .atom leaf.atom)] := by
  have alone := units?_fragment named operand .and
  have same : leaf.text = leaf.fragment := by
    rw [text, (orBlank_of_units? ⟨leaf.fragment, leaf.args⟩ alone (by simp)).2]
  rw [same, alone]

/-- The text of a leaf is read, and on a column it is at most one unit. -/
theorem units?_text {leaf : Leaf} (formed : leaf.IsWellFormed) :
    units? .and leaf.text = some leaf.units ∧ (leaf.isRaw = false → leaf.units.length = 1) := by
  have read (units' : List (Connective × Formula Atom))
      (read : units? .and leaf.text = some units') :
      units? .and leaf.text = some leaf.units ∧ leaf.units = units' := by
    unfold units
    rw [read]
    exact ⟨rfl, rfl⟩
  cases named : leaf.column? with
  | some column =>
    have operand : isOperand column := by simpa only [IsWellFormed, named] using formed
    obtain ⟨whole, one⟩ := read _ (units?_text_of_column named operand)
    exact ⟨whole, fun _ => by rw [one]; rfl⟩
  | none =>
    have raw : leaf.isRaw := by cases leaf <;> first | rfl | contradiction
    refine ⟨?_, fun other => absurd (raw.symm.trans other) (by decide)⟩
    simp only [IsWellFormed, named] at formed
    rcases formed with blank | parsed
    · exact (read [] (by rw [blank]; rfl)).1
    · obtain ⟨formula, parsed⟩ := Option.isSome_iff_exists.1 parsed
      obtain ⟨units', whole, _⟩ := Option.bind_eq_some_iff.1 parsed
      exact (read _ whole).1

end Leaf

theorem Leaf.length_units_le {leaves : List Leaf} (formed : ∀ leaf ∈ leaves, leaf.IsWellFormed) :
    ∀ leaf ∈ leaves, leaf.isRaw = false → leaf.units.length ≤ 1 :=
  fun leaf member column => ((units?_text (formed leaf member)).2 column).le

namespace Condition

/-- Outside a chain of two or more operands, and apart from a lone raw fragment, a condition is one
unit. -/
theorem length_units (read : Leaf → List (Connective × Formula Atom)) {condition : Condition}
    (single : ∀ leaf ∈ condition.leaves, leaf.isRaw = false → (read leaf).length ≤ 1)
    (simple : condition.isComposite = false) : (condition.units read).length ≤ 1 := by
  simp only [isComposite, Bool.or_eq_false_iff] at simple
  cases condition with
  | empty => exact Nat.zero_le _
  | leaf l => exact single l (List.mem_singleton_self l) simple.2
  | group operand => exact length_asUnit _ _
  | join chain connective operand => exact absurd simple.1 Bool.true_eq_false.mp

/-- The text of an operand is one unit, or nothing if the operand says nothing. -/
theorem units?_operandFragment {read : Leaf → List (Connective × Formula Atom)}
    {operand : Condition} (connective : Connective)
    (single : ∀ leaf ∈ operand.leaves, leaf.isRaw = false → (read leaf).length ≤ 1)
    (whole : units? .and operand.compile.sql = some (operand.units read)) :
    units? connective (operandFragment operand operand.compile).sql =
      some (asUnit connective (operand.units read)) := by
  unfold asUnit operandFragment
  cases formula : Formula.ofChain? (operand.units read) with
  | none =>
    rw [Formula.ofChain?_eq_none] at formula
    rw [formula, units?_eq_nil] at whole
    split <;> simp [Fragment.inParentheses, Fragment.orBlank, whole, units?, Fragment.blank]
  | some formula' =>
    have nonempty : operand.units read ≠ [] := by
      intro none
      rw [none] at formula
      contradiction
    split
    · have enclosed := units?_parentheses connective whole formula
      have kept := orBlank_of_units? operand.compile.inParentheses enclosed (by simp)
      rw [kept.2]
      exact enclosed
    · next simple =>
      rw [(orBlank_of_units? _ whole nonempty).2, units?_retie .and, whole]
      have one := length_units read single (Bool.eq_false_iff.2 simple)
      obtain ⟨⟨first, unit⟩, rest, units⟩ := List.exists_cons_of_ne_nil nonempty
      obtain rfl : rest = [] := by
        rw [units, List.length_cons] at one
        exact List.eq_nil_of_length_eq_zero (by omega)
      rw [units] at formula ⊢
      cases formula
      rfl

/-- An operand behind a chain that is read, whatever the chain is made of. -/
theorem units?_join {chain operand : Condition} (connective : Connective)
    {chainUnits operandUnits : List (Connective × Formula Atom)}
    (left : units? .and chain.compile.sql = some chainUnits)
    (right : ∀ connective, units? connective (operandFragment operand operand.compile).sql =
      some (asUnit connective operandUnits)) :
    units? .and (join chain connective operand).compile.sql =
      some (joinUnits connective operandUnits chainUnits) := by
  simp only [compile, Fragment.tie, Fragment.isBlank, beq_iff_eq]
  split
  · next blank =>
    have silent : asUnit connective operandUnits = [] := by
      rw [← Option.some_inj, ← right connective, units?_eq_nil.2 blank]
    rw [asUnit_eq_nil.1 silent, joinUnits_nil]
    exact left
  · next rightText =>
    split
    · next blank =>
      rw [units?_eq_nil.2 blank] at left
      rw [← Option.some.inj left]
      exact right .and
    · next leftText =>
      have tied : chainUnits ≠ [] := by
        intro none
        rw [none] at left
        exact leftText (units?_eq_nil.1 left)
      have spoken : asUnit connective operandUnits ≠ [] := by
        intro none
        have silent := right connective
        rw [none] at silent
        exact rightText (units?_eq_nil.1 silent)
      rw [joinUnits_of_ne_nil tied]
      exact units?_tie left (right connective) tied spoken

/-- The text of a condition is read as the units of the condition. -/
theorem units?_compile {condition : Condition}
    (formed : ∀ leaf ∈ condition.leaves, leaf.IsWellFormed) :
    units? .and condition.compile.sql = some (condition.units Leaf.units) := by
  induction condition with
  | empty => rfl
  | leaf l => exact (Leaf.units?_text (formed l (List.mem_singleton_self l))).1
  | group operand ih =>
    exact units?_operandFragment .and (Leaf.length_units_le formed) (ih formed)
  | join chain connective operand ihChain ihOperand =>
    have formedChain leaf member := formed leaf (List.mem_append_left operand.leaves member)
    have formedOperand leaf member := formed leaf (List.mem_append_right chain.leaves member)
    have left := ihChain formedChain
    have right connective :=
      units?_operandFragment connective (Leaf.length_units_le formedOperand)
        (ihOperand formedOperand)
    exact units?_join connective left right

end Condition

end DataAccess
