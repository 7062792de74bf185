import DataAccess.Proofs.Sql.Alternatives
import DataAccess.Proofs.Sql.Identifier
import DataAccess.Proofs.Sql.Placement

/-! What a condition means, and that compiling it keeps the meaning. The meaning is that of the
tree: operands that hold no leaf are left out together with their connective, those that remain form
alternatives at the `OR`s, all operands of an alternative must hold, and an operand counts as one,
whatever it holds. -/
namespace DataAccess

open Sql

/-- The atoms of the units of a chain. -/
def chainAtoms {α : Type} (units : List (Connective × Formula α)) : List α :=
  units.flatMap fun unit => unit.2.atoms

theorem chainAtoms_asUnit {α : Type} (connective : Connective)
    (units : List (Connective × Formula α)) :
    chainAtoms (asUnit connective units) = chainAtoms units := by
  cases units with
  | nil => rfl
  | cons unit rest => simp [chainAtoms, asUnit, Formula.ofChain?, Formula.atoms_chain]

namespace Condition

variable {τ : Type} [Lattice τ] [BoundedOrder τ]

/-- The alternatives of a condition, given the truth of its leaves. -/
def alternatives (truth : Leaf → τ) : Condition → List (List τ)
  | empty => []
  | leaf l => [[truth l]]
  | group operand =>
    match someOf? (operand.alternatives truth) with
    | some value => [[value]]
    | none => []
  | join chain connective operand =>
    match someOf? (operand.alternatives truth) with
    | some value => addOperand connective value (chain.alternatives truth)
    | none => chain.alternatives truth

/-- The truth of a condition; one without leaves says nothing. -/
def meaning? (truth : Leaf → τ) (condition : Condition) : Option τ :=
  someOf? (condition.alternatives truth)

/-- The units of a condition when every leaf is one. -/
def leafUnits : Condition → List (Connective × Formula Leaf) :=
  units fun leaf => [(.and, .atom leaf)]

end Condition

namespace Condition

variable {τ : Type} [Lattice τ] [BoundedOrder τ]

/-- The alternatives of a condition each of whose leaves is one unit. -/
theorem alternatives_units {α : Type} (truth : α → τ) (formula : Leaf → Formula α)
    (condition : Condition) :
    DataAccess.alternatives ((condition.units fun leaf => [(.and, formula leaf)]).map
        fun unit => (unit.1, unit.2.eval truth)) =
      condition.alternatives fun leaf => (formula leaf).eval truth := by
  induction condition with
  | empty => rfl
  | leaf l => rfl
  | group operand ih =>
    simp only [alternatives, units, asUnit, ← ih, someOf?_alternatives]
    cases Formula.ofChain? (operand.units _) <;> rfl
  | join chain connective operand ihChain ihOperand =>
    simp only [alternatives, units, ← ihChain, ← ihOperand, someOf?_alternatives]
    cases operandFormula :
        Formula.ofChain? (operand.units fun leaf => [(.and, formula leaf)]) with
    | none =>
      rw [Formula.ofChain?_eq_none.1 operandFormula, joinUnits_nil]
      rfl
    | some whole =>
      simp only [Option.map_some]
      cases chain.units fun leaf => [(.and, formula leaf)] with
      | nil => simp [joinUnits, asUnit, operandFormula, DataAccess.alternatives, addOperand]
      | cons unit rest =>
        simp only [joinUnits, asUnit, operandFormula, Option.map_some, Option.toList_some,
          List.map_append, List.map_cons, List.map_nil, alternatives_concat]

theorem meaning?_units {α : Type} (truth : α → τ) (formula : Leaf → Formula α)
    (condition : Condition) :
    condition.meaning? (fun leaf => (formula leaf).eval truth) =
      (Formula.ofChain? (condition.units fun leaf => [(.and, formula leaf)])).map
        (Formula.eval truth) := by
  rw [meaning?, ← alternatives_units, someOf?_alternatives]

theorem meaning?_eq (truth : Leaf → τ) (condition : Condition) :
    condition.meaning? truth =
      (Formula.ofChain? condition.leafUnits).map (Formula.eval truth) :=
  meaning?_units truth Formula.atom condition

/-- Compiling keeps the atoms of the leaves, from left to right. -/
theorem chainAtoms_units {α : Type} (read : Leaf → List (Connective × Formula α))
    (condition : Condition) :
    chainAtoms (condition.units read) =
      condition.leaves.flatMap fun leaf => chainAtoms (read leaf) := by
  induction condition with
  | empty => rfl
  | leaf l => simp [units, leaves]
  | group operand ih => rw [units, chainAtoms_asUnit, ih, leaves]
  | join chain connective operand ihChain ihOperand =>
    rw [units, leaves, List.flatMap_append, ← ihChain, ← ihOperand]
    cases chain.units read with
    | nil => exact chainAtoms_asUnit _ _
    | cons unit rest =>
      rw [joinUnits_of_ne_nil (List.cons_ne_nil _ _), chainAtoms, List.flatMap_append]
      exact congrArg _ (chainAtoms_asUnit _ _)

theorem atoms_leafUnits (condition : Condition) :
    condition.leafUnits.flatMap (fun unit => unit.2.atoms) = condition.leaves :=
  (chainAtoms_units _ condition).trans (List.flatMap_singleton' _)

/-- Reading each leaf through a function reads each unit through it. -/
theorem units_map {α β : Type} (f : α → β) (read : Leaf → List (Connective × Formula α))
    (condition : Condition) :
    condition.units (fun leaf => (read leaf).map fun unit => (unit.1, unit.2.map f)) =
      (condition.units read).map fun unit => (unit.1, unit.2.map f) := by
  have one {connective : Connective} {units : List (Connective × Formula α)} :
      asUnit connective (units.map fun unit => (unit.1, unit.2.map f)) =
        (asUnit connective units).map fun unit => (unit.1, unit.2.map f) := by
    unfold asUnit
    rw [← Formula.map_ofChain?]
    cases Formula.ofChain? units <;> rfl
  induction condition with
  | empty => rfl
  | leaf l => rfl
  | group operand ih => simp only [units, ih, one]
  | join chain connective operand ihChain ihOperand =>
    simp only [units, ihChain, ihOperand]
    cases chain.units read with
    | nil => exact one
    | cons unit rest => simp only [joinUnits, List.map_cons, List.cons_append, List.map_append, one]

theorem units_congr {α : Type} {read other : Leaf → List (Connective × Formula α)}
    {condition : Condition} (same : ∀ leaf ∈ condition.leaves, read leaf = other leaf) :
    condition.units read = condition.units other := by
  induction condition with
  | empty => rfl
  | leaf l => exact same l (List.mem_singleton_self l)
  | group operand ih => rw [units, units, ih same]
  | join chain connective operand ihChain ihOperand =>
    rw [units, units, ihChain fun leaf member => same leaf (List.mem_append_left _ member),
      ihOperand fun leaf member => same leaf (List.mem_append_right _ member)]

end Condition

/-- The number of arguments that an atom takes. -/
def Sql.arity (atom : Atom) : Nat := atom.count (.mark '?')

/-- An operand without an argument: a column name that is no keyword, or an expression of such. -/
def Sql.isColumn (text : String) : Bool :=
  isOperand text && arity ((tokens? text.toList).getD []) == 0

/-- A leaf on a column. -/
def Leaf.IsPlain (leaf : Leaf) : Prop := ∃ column, leaf.column? = some column ∧ isColumn column

theorem Sql.tokens?_of_isOperand {text : String} (operand : isOperand text) :
    ∃ tokens, tokens? text.toList = some tokens := by
  unfold isOperand at operand
  split at operand
  · next items read => exact ⟨_, tokens?_of_items? read⟩
  · contradiction

namespace Leaf

theorem IsPlain.isWellFormed {leaf : Leaf} (plain : leaf.IsPlain) : leaf.IsWellFormed := by
  obtain ⟨column, named, column?⟩ := plain
  simp only [isColumn, Bool.and_eq_true] at column?
  simp only [IsWellFormed, named, column?.1]

theorem units_of_plain {leaf : Leaf} (plain : leaf.IsPlain) :
    leaf.units = [(.and, .atom leaf.atom)] := by
  obtain ⟨column, named, column?⟩ := plain
  simp only [isColumn, Bool.and_eq_true] at column?
  rw [units, units?_text_of_column named column?.1, Option.getD_some]

theorem IsPlain.takesArguments {leaf : Leaf} (plain : leaf.IsPlain) : leaf.TakesArguments := by
  obtain ⟨column, named, column?⟩ := plain
  simp only [isColumn, Bool.and_eq_true, beq_iff_eq] at column?
  obtain ⟨tokens, read⟩ := tokens?_of_isOperand column?.1
  obtain ⟨after, marks⟩ := marks_of_tokens? read
  have silent : tokens.count (.mark '?') = 0 := by
    simpa only [arity, read, Option.getD_some] using column?.2
  have text : IsPlainText column := IsPlainText.iff_marks.2 ⟨marks.trans silent, after⟩
  cases leaf with
  | raw sql args => contradiction
  | _ =>
    cases named
    rintro _ ⟨⟩
    exact text

/-- A leaf on a column has as many placeholders as arguments. -/
theorem arity_atom {leaf : Leaf} (plain : leaf.IsPlain) :
    arity leaf.atom = leaf.args.length := by
  obtain ⟨fragment, closed⟩ := layout_spec plain.takesArguments
  have marks := Layout.marks_fragment closed
  obtain ⟨column, named, column?⟩ := plain
  simp only [isColumn, Bool.and_eq_true] at column?
  obtain ⟨items, read, _⟩ := items?_of_units? (units?_fragment named column?.1 .and) (by simp)
  have tokens := tokens?_of_items? read
  rw [fragment, (marks_of_tokens? tokens).2] at marks
  rw [atom, tokens, Option.getD_some, arity, marks]

end Leaf

namespace Condition

theorem leafUnits_eq_nil {condition : Condition} :
    condition.leafUnits = [] ↔ condition.leaves = [] := by
  rw [← atoms_leafUnits]
  constructor
  · intro none
    rw [none]
    rfl
  · intro none
    cases units : condition.leafUnits with
    | nil => rfl
    | cons unit rest =>
      rw [units, List.flatMap_cons, List.append_eq_nil_iff] at none
      exact absurd none.1 unit.2.atoms_ne_nil

/-- The text of a condition on columns, read unit by unit. -/
theorem units?_compile_of_plain {condition : Condition}
    (plain : ∀ leaf ∈ condition.leaves, leaf.IsPlain) :
    units? .and condition.compile.sql =
      some (condition.leafUnits.map fun unit => (unit.1, unit.2.map Leaf.atom)) := by
  rw [units?_compile fun leaf member => (plain leaf member).isWellFormed, leafUnits, ← units_map]
  exact congrArg some (units_congr fun leaf member => Leaf.units_of_plain (plain leaf member))

/-- A condition on columns compiles to nothing exactly if it has no leaf. -/
theorem sql_compile_eq_empty {condition : Condition}
    (plain : ∀ leaf ∈ condition.leaves, leaf.IsPlain) :
    condition.compile.sql = "" ↔ condition.leaves = [] := by
  rw [← @units?_eq_nil .and, units?_compile_of_plain plain, Option.some_inj,
    List.map_eq_nil_iff, leafUnits_eq_nil]

theorem args_compile {condition : Condition} (plain : ∀ leaf ∈ condition.leaves, leaf.IsPlain) :
    condition.compile.args = condition.leaves.flatMap Leaf.args := by
  obtain ⟨fragment, _, args⟩ := layout_spec fun leaf member => (plain leaf member).takesArguments
  rw [← args, fragment]

/-- Compiling a condition on columns keeps its meaning. The text is empty exactly if there is no
leaf; the arguments are those of the leaves; and the text, read as a backend reads it, has the
leaves as its atoms, each with its own arguments, and is true exactly when the tree is. -/
theorem compile_keeps_meaning {condition : Condition}
    (plain : ∀ leaf ∈ condition.leaves, leaf.IsPlain) :
    (condition.compile.sql = "" ↔ condition.leaves = []) ∧
    condition.compile.args = condition.leaves.flatMap Leaf.args ∧
    (condition.leaves ≠ [] →
      ∃ formula, parse? condition.compile.sql = some formula ∧
        (formula.supply arity condition.compile.args).2 = [] ∧
        (formula.supply arity condition.compile.args).1.atoms =
          condition.leaves.map (fun leaf => (leaf.atom, leaf.args)) ∧
        ∀ (τ : Type) [Lattice τ] [BoundedOrder τ] (truth : Atom × List Value → τ),
          some ((formula.supply arity condition.compile.args).1.eval truth) =
            condition.meaning? fun leaf => truth (leaf.atom, leaf.args)) := by
  refine ⟨sql_compile_eq_empty plain, args_compile plain, fun nonempty => ?_⟩
  have spoken : condition.leafUnits ≠ [] := fun none => nonempty (leafUnits_eq_nil.1 none)
  obtain ⟨tree, whole⟩ : ∃ tree, Formula.ofChain? condition.leafUnits = some tree := by
    obtain ⟨unit, rest, units⟩ := List.exists_cons_of_ne_nil spoken
    exact ⟨_, by rw [units]; rfl⟩
  have leaves : tree.atoms = condition.leaves := by
    rw [Formula.atoms_of_ofChain? whole, atoms_leafUnits]
  have supplied : (tree.map Leaf.atom).supply arity condition.compile.args =
      (tree.map fun leaf => (leaf.atom, leaf.args), []) := by
    rw [args_compile plain, ← leaves, ← List.append_nil (tree.atoms.flatMap Leaf.args)]
    refine Formula.supply_map arity Leaf.atom Leaf.args tree (fun leaf member => ?_) []
    exact (Leaf.arity_atom (plain leaf (leaves ▸ member))).symm
  refine ⟨tree.map Leaf.atom, ?_, ?_, ?_, fun τ _ _ truth => ?_⟩
  · rw [parse?, units?_compile_of_plain plain, Option.bind_some, ← Formula.map_ofChain?, whole]
    rfl
  · rw [supplied]
  · rw [supplied, Formula.atoms_map, leaves]
  · rw [supplied, Formula.eval_map, meaning?_eq, whole]
    rfl

theorem compile_keeps_meaning_of_nested :
    let condition := (Condition.eq "a" (.int 1)).and
      ((Condition.eq "b" (.int 2)).or (Condition.empty.and (.leaf (.isNull "c"))))
    (∀ leaf ∈ condition.leaves, leaf.IsPlain) ∧
    condition.compile.sql = "a = ? AND (b = ? OR c IS NULL)" ∧
    ∃ formula, parse? condition.compile.sql = some formula ∧
      (formula.supply arity condition.compile.args).1.atoms =
        condition.leaves.map (fun leaf => (leaf.atom, leaf.args)) := by
  intro condition
  have plain : ∀ leaf ∈ condition.leaves, leaf.IsPlain := by
    intro leaf member
    have listed : leaf ∈ [Leaf.compare "a" .eq (.int 1), .compare "b" .eq (.int 2), .isNull "c"] :=
      member
    simp only [List.mem_cons, List.not_mem_nil, or_false] at listed
    rcases listed with rfl | rfl | rfl <;> exact ⟨_, rfl, rfl⟩
  obtain ⟨_, _, meant⟩ := compile_keeps_meaning plain
  obtain ⟨formula, read, _, atoms, _⟩ := meant (by decide)
  exact ⟨plain, rfl, formula, read, atoms⟩

end Condition

end DataAccess
