import DataAccess.Sql.Condition
import Mathlib.Data.Fintype.Order

/-! Formulas of `AND` and `OR`. A chain of operands is read with `AND` binding tighter than `OR`,
and the connective in front of its first operand does not count. Truth values form a lattice, so one
statement covers two truth values and the three of SQL. -/
namespace DataAccess

inductive Formula (α : Type) where
  | atom (a : α)
  | and (left right : Formula α)
  | or (left right : Formula α)
deriving DecidableEq

namespace Formula

variable {α β γ τ : Type}

def map (f : α → β) : Formula α → Formula β
  | atom a => atom (f a)
  | and left right => and (left.map f) (right.map f)
  | or left right => or (left.map f) (right.map f)

def atoms : Formula α → List α
  | atom a => [a]
  | and left right => left.atoms ++ right.atoms
  | or left right => left.atoms ++ right.atoms

def eval [Lattice τ] (truth : α → τ) : Formula α → τ
  | atom a => truth a
  | and left right => left.eval truth ⊓ right.eval truth
  | or left right => left.eval truth ⊔ right.eval truth

/-- The operands `first`, then `rest`, with `AND` binding tighter than `OR`. -/
def chain (first : Formula α) : List (Connective × Formula α) → Formula α
  | [] => first
  | (.and, next) :: rest => chain (and first next) rest
  | (.or, next) :: rest => or first (chain next rest)

/-- The formula of a whole chain, unless the chain is empty. -/
def ofChain? : List (Connective × Formula α) → Option (Formula α)
  | [] => none
  | (_, first) :: rest => some (chain first rest)

/-- The formula that all of the given ones hold. -/
def conjunction? (formulas : List (Formula α)) : Option (Formula α) :=
  ofChain? (formulas.map fun formula => (.and, formula))

/-- The formula that some of the given ones holds. -/
def disjunction? (formulas : List (Formula α)) : Option (Formula α) :=
  ofChain? (formulas.map fun formula => (.or, formula))

/-- Hand out values to the atoms from left to right, as many to each as its size says. What is left
over comes back. -/
def supply (size : α → Nat) : Formula α → List β → Formula (α × List β) × List β
  | atom a, values => (atom (a, values.take (size a)), values.drop (size a))
  | and left right, values =>
    let (left, values) := left.supply size values
    let (right, values) := right.supply size values
    (and left right, values)
  | or left right, values =>
    let (left, values) := left.supply size values
    let (right, values) := right.supply size values
    (or left right, values)

theorem eval_eq_of_atoms [Lattice τ] {truth : α → τ} {value : τ} {formula : Formula α}
    (same : ∀ a ∈ formula.atoms, truth a = value) : formula.eval truth = value := by
  induction formula with
  | atom a => exact same a (List.mem_singleton_self a)
  | and left right ihl ihr =>
    rw [eval, ihl fun a member => same a (List.mem_append_left _ member),
      ihr fun a member => same a (List.mem_append_right _ member), inf_idem]
  | or left right ihl ihr =>
    rw [eval, ihl fun a member => same a (List.mem_append_left _ member),
      ihr fun a member => same a (List.mem_append_right _ member), sup_idem]

theorem atoms_ne_nil (formula : Formula α) : formula.atoms ≠ [] := by
  induction formula with
  | atom a => exact List.cons_ne_nil _ _
  | and left right ihl _ => simp [atoms, ihl]
  | or left right ihl _ => simp [atoms, ihl]

theorem atoms_map (f : α → β) (formula : Formula α) :
    (formula.map f).atoms = formula.atoms.map f := by
  induction formula with
  | atom a => rfl
  | and left right ihl ihr => simp [map, atoms, ihl, ihr]
  | or left right ihl ihr => simp [map, atoms, ihl, ihr]

theorem map_map (f : α → β) (g : β → γ) (formula : Formula α) :
    (formula.map f).map g = formula.map fun a => g (f a) := by
  induction formula with
  | atom a => rfl
  | and left right ihl ihr => simp only [map, ihl, ihr]
  | or left right ihl ihr => simp only [map, ihl, ihr]

theorem map_id (formula : Formula α) : (formula.map fun a => a) = formula := by
  induction formula with
  | atom a => rfl
  | and left right ihl ihr => simp only [map, ihl, ihr]
  | or left right ihl ihr => simp only [map, ihl, ihr]

theorem eval_map [Lattice τ] (f : α → β) (truth : β → τ) (formula : Formula α) :
    (formula.map f).eval truth = formula.eval fun a => truth (f a) := by
  induction formula with
  | atom a => rfl
  | and left right ihl ihr => simp only [map, eval, ihl, ihr]
  | or left right ihl ihr => simp only [map, eval, ihl, ihr]

theorem map_chain (f : α → β) (first : Formula α) (rest : List (Connective × Formula α)) :
    (chain first rest).map f =
      chain (first.map f) (rest.map fun unit => (unit.1, unit.2.map f)) := by
  induction rest generalizing first with
  | nil => rfl
  | cons unit rest ih =>
    obtain ⟨connective, next⟩ := unit
    cases connective with
    | and => exact ih (and first next)
    | or => exact congrArg (or (first.map f)) (ih next)

theorem map_ofChain? (f : α → β) (units : List (Connective × Formula α)) :
    (ofChain? units).map (map f) =
      ofChain? (units.map fun unit => (unit.1, unit.2.map f)) := by
  cases units with
  | nil => rfl
  | cons unit rest => exact congrArg some (map_chain f unit.2 rest)

theorem atoms_chain (first : Formula α) (rest : List (Connective × Formula α)) :
    (chain first rest).atoms = first.atoms ++ rest.flatMap fun unit => unit.2.atoms := by
  induction rest generalizing first with
  | nil => simp [chain]
  | cons unit rest ih =>
    obtain ⟨connective, next⟩ := unit
    cases connective <;> simp [chain, atoms, ih]

theorem atoms_of_ofChain? {units : List (Connective × Formula α)} {formula : Formula α}
    (whole : ofChain? units = some formula) :
    formula.atoms = units.flatMap fun unit => unit.2.atoms := by
  cases units with
  | nil => contradiction
  | cons unit rest =>
    cases whole
    exact atoms_chain unit.2 rest

theorem getD_atoms_ofChain? (units : List (Connective × Formula α)) :
    ((ofChain? units).map atoms).getD [] = units.flatMap fun unit => unit.2.atoms := by
  cases units with
  | nil => rfl
  | cons unit rest => exact atoms_chain unit.2 rest

theorem ofChain?_eq_none {units : List (Connective × Formula α)} :
    ofChain? units = none ↔ units = [] := by
  cases units <;> simp [ofChain?]

/-- Values made for the atoms, in their order, reach the atoms they were made for. -/
theorem supply_map (size : α → Nat) (f : γ → α) (values : γ → List β) (formula : Formula γ)
    (fits : ∀ a ∈ formula.atoms, (values a).length = size (f a)) (rest : List β) :
    (formula.map f).supply size (formula.atoms.flatMap values ++ rest) =
      (formula.map fun a => (f a, values a), rest) := by
  induction formula generalizing rest with
  | atom a =>
    have length := fits a (List.mem_singleton_self a)
    simp [map, supply, atoms, ← length]
  | and left right ihl ihr =>
    simp only [map, supply, atoms, List.flatMap_append, List.append_assoc]
    rw [ihl fun a member => fits a (List.mem_append_left _ member)]
    simp only [ihr fun a member => fits a (List.mem_append_right _ member)]
  | or left right ihl ihr =>
    simp only [map, supply, atoms, List.flatMap_append, List.append_assoc]
    rw [ihl fun a member => fits a (List.mem_append_left _ member)]
    simp only [ihr fun a member => fits a (List.mem_append_right _ member)]

end Formula

/-- A chain as an operand of another: one unit, or none if it says nothing. -/
def asUnit {α : Type} (connective : Connective) (units : List (Connective × Formula α)) :
    List (Connective × Formula α) :=
  ((Formula.ofChain? units).map (connective, ·)).toList

/-- Add an operand to a chain. The first operand stands without a connective, which is read as
`AND`. -/
def joinUnits {α : Type} (connective : Connective) (operand : List (Connective × Formula α)) :
    List (Connective × Formula α) → List (Connective × Formula α)
  | [] => asUnit .and operand
  | chain => chain ++ asUnit connective operand

theorem asUnit_eq_nil {α : Type} {connective : Connective} {units : List (Connective × Formula α)} :
    asUnit connective units = [] ↔ units = [] := by
  cases units <;> simp [asUnit, Formula.ofChain?]

theorem joinUnits_of_ne_nil {α : Type} {chain : List (Connective × Formula α)} (tied : chain ≠ [])
    (connective : Connective) (operand : List (Connective × Formula α)) :
    joinUnits connective operand chain = chain ++ asUnit connective operand := by
  cases chain with
  | nil => contradiction
  | cons unit rest => rfl

theorem joinUnits_nil {α : Type} (connective : Connective) (chain : List (Connective × Formula α)) :
    joinUnits connective [] chain = chain := by
  cases chain with
  | nil => rfl
  | cons unit rest => exact List.append_nil _

theorem length_asUnit {α : Type} (connective : Connective) (units : List (Connective × Formula α)) :
    (asUnit connective units).length ≤ 1 := by
  unfold asUnit
  cases Formula.ofChain? units <;> simp

end DataAccess
