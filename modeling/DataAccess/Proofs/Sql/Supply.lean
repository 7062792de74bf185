import DataAccess.Proofs.Sql.Meaning
import Mathlib.Algebra.GroupWithZero.Nat

/-! Arguments at the atoms of a text that is read. Reading a text loses none of its question marks,
so a fragment with as many arguments as question marks hands each atom its own ones, whether the
text comes from a leaf on a column or is a raw one. -/
namespace DataAccess

open Sql

namespace Sql

/-- How many arguments the items of a text take. -/
def marks (items : List Item) : Nat := arity (items.flatMap Item.tokens)

/-- How many arguments the atoms of a formula take. -/
def places (formula : Formula Atom) : Nat := (formula.atoms.map arity).sum

/-- A text in parentheses that has a formula takes its arguments at the atoms. -/
def Item.IsCounted : Item → Prop
  | single _ => True
  | group inside formula => ∀ read ∈ formula, places read = arity inside

theorem marks_cons (item : Item) (items : List Item) :
    marks (item :: items) = arity item.tokens + marks items := by
  simp [marks, arity, List.count_append]

theorem arity_connective {item : Item} {connective : Connective}
    (ties : item.connective? = some connective) : arity item.tokens = 0 := by
  cases item with
  | group => contradiction
  | single token =>
    cases token with
    | mark c => contradiction
    | _ => rfl

/-- Cutting a text at its connectives invents no item and loses no question mark. -/
theorem operands?_spec {connective : Connective} {betweens : Nat} {items : List Item}
    {operands : List (Connective × List Item)}
    (cut : operands? connective betweens items = some operands) :
    (∀ operand ∈ operands, operand.2 ⊆ items) ∧
      (operands.map fun operand => marks operand.2).sum = marks items := by
  induction items generalizing connective betweens operands with
  | nil =>
    simp only [operands?, Option.ite_none_right_eq_some] at cut
    obtain rfl := Option.some.inj cut.2
    simp
  | cons item rest ih =>
    -- an item that does not cut the text goes to the operand in front
    have push {connective : Connective} {betweens : Nat}
        (cut : (operands? connective betweens rest).map (pushItem item) = some operands) :
        (∀ operand ∈ operands, operand.2 ⊆ item :: rest) ∧
          (operands.map fun operand => marks operand.2).sum = marks (item :: rest) := by
      obtain ⟨inner, cutRest, rfl⟩ := Option.map_eq_some_iff.1 cut
      obtain ⟨among, sum⟩ := ih cutRest
      obtain ⟨head, tail, rfl⟩ := List.exists_cons_of_ne_nil (operands?_ne_nil cutRest)
      obtain ⟨headAmong, tailAmong⟩ := List.forall_mem_cons.1 among
      constructor
      · refine List.forall_mem_cons.2 ⟨List.cons_subset_cons item headAmong, ?_⟩
        exact fun operand member => List.subset_cons_of_subset item (tailAmong operand member)
      · rw [marks_cons, ← sum]
        simp [pushItem, marks_cons, Nat.add_assoc]
    rw [operands?] at cut
    split at cut
    · exact push cut
    · next ties =>
      split at cut
      · obtain ⟨inner, cutRest, rfl⟩ := Option.map_eq_some_iff.1 cut
        obtain ⟨among, sum⟩ := ih cutRest
        constructor
        · refine List.forall_mem_cons.2 ⟨List.nil_subset _, fun operand member => ?_⟩
          exact List.subset_cons_of_subset item (among operand member)
        · rw [List.map_cons, List.sum_cons, sum, marks_cons, arity_connective ties]
          rfl
      · split at cut
        · exact push cut
        · contradiction

theorem places_unit? {items : List Item} {formula : Formula Atom}
    (counted : ∀ item ∈ items, item.IsCounted) (read : unit? items = some formula) :
    places formula = marks items := by
  unfold unit? at read
  split at read
  · contradiction
  · next inside _ =>
    have inner := counted _ (List.mem_singleton_self _) formula read
    simpa [marks, arity, Item.tokens, List.count_append] using inner
  · obtain rfl := Option.some.inj read
    simp [places, Formula.atoms, marks]

/-- The atoms of a chain that is read take the arguments of its text. -/
theorem sum_unitsOf? {connective : Connective} {items : List Item}
    {units : List (Connective × Formula Atom)} (counted : ∀ item ∈ items, item.IsCounted)
    (read : unitsOf? connective items = some units) :
    (units.map fun unit => places unit.2).sum = marks items := by
  obtain ⟨operands, cut, mapped⟩ := Option.bind_eq_some_iff.1 read
  obtain ⟨among, sum⟩ := operands?_spec cut
  rw [← sum]
  clear sum cut read
  induction operands generalizing units with
  | nil =>
    cases mapped
    rfl
  | cons operand rest ih =>
    rw [List.mapM_cons] at mapped
    obtain ⟨unit, alone, mapped⟩ := Option.bind_eq_some_iff.1 mapped
    obtain ⟨others, later, mapped⟩ := Option.bind_eq_some_iff.1 mapped
    obtain ⟨formula, read, rfl⟩ := Option.map_eq_some_iff.1 alone
    obtain rfl := Option.some.inj mapped
    obtain ⟨here, behind⟩ := List.forall_mem_cons.1 among
    have one := places_unit? (fun item member => counted item (here member)) read
    rw [List.map_cons, List.map_cons, List.sum_cons, List.sum_cons, one, ih later behind]

theorem places_of_ofChain? {units : List (Connective × Formula Atom)} {formula : Formula Atom}
    (whole : Formula.ofChain? units = some formula) :
    places formula = (units.map fun unit => places unit.2).sum := by
  rw [places, Formula.atoms_of_ofChain? whole, List.map_flatMap]
  simp [places, List.flatMap, Function.comp_def]

theorem isCounted_place? {token : Token} {texts placed : List (List Item)}
    (counted : ∀ text ∈ texts, ∀ item ∈ text, item.IsCounted)
    (done : place? token texts = some placed) : ∀ text ∈ placed, ∀ item ∈ text, item.IsCounted := by
  unfold place? at done
  split at done
  case h_1 =>
    obtain rfl := Option.some.inj done
    exact List.forall_mem_cons.2 ⟨nofun, counted⟩
  case h_2 inside outer texts =>
    obtain rfl := Option.some.inj done
    obtain ⟨within, counted⟩ := List.forall_mem_cons.1 counted
    obtain ⟨around, below⟩ := List.forall_mem_cons.1 counted
    refine List.forall_mem_cons.2 ⟨List.forall_mem_cons.2 ⟨fun formula read => ?_, around⟩, below⟩
    obtain ⟨units, cut, whole⟩ := Option.bind_eq_some_iff.1 read
    rw [places_of_ofChain? whole, sum_unitsOf? within cut, marks]
  case h_3 => contradiction
  case h_4 =>
    obtain rfl := Option.some.inj done
    obtain ⟨within, below⟩ := List.forall_mem_cons.1 counted
    exact List.forall_mem_cons.2 ⟨List.forall_mem_cons.2 ⟨trivial, within⟩, below⟩
  case h_5 => contradiction

theorem isCounted_nest? {tokens : List Token} {texts : List (List Item)}
    (nested : nest? tokens = some texts) : ∀ text ∈ texts, ∀ item ∈ text, item.IsCounted := by
  induction tokens generalizing texts with
  | nil =>
    obtain rfl := Option.some.inj nested
    simp
  | cons token rest ih =>
    obtain ⟨inner, nested, placed⟩ := Option.bind_eq_some_iff.1 nested
    exact isCounted_place? (ih nested) placed

/-- The atoms of a text that is read take as many arguments as the text has question marks outside
quotes. -/
theorem sum_units? {connective : Connective} {text : String}
    {units : List (Connective × Formula Atom)} (read : units? connective text = some units) :
    (units.map fun unit => places unit.2).sum = QuoteState.marks none text.toList := by
  by_cases silent : units = []
  · rw [silent, units?_eq_nil] at read
    rw [silent, read]
    rfl
  · obtain ⟨items, within, cut⟩ := items?_of_units? read silent
    obtain ⟨tokens, _, nested⟩ := items?_eq_some.1 within
    rw [sum_unitsOf? (isCounted_nest? nested _ (List.mem_singleton_self _)) cut,
      (marks_of_tokens? (tokens?_of_items? within)).2]
    rfl

end Sql

namespace Formula

variable {α β : Type}

/-- Values that are handed out to the atoms of a formula: each atom has as many as it takes, and in
the order of the atoms they are the given ones, but for those left over. -/
structure Supplies (size : α → Nat) (atoms : List α) (given : List β) (supplied : List (α × List β))
    (rest : List β) : Prop where
  values : supplied.flatMap Prod.snd ++ rest = given
  fits : ∀ a ∈ supplied, a.2.length = size a.1
  count : (atoms.map size).sum + rest.length = given.length

theorem Supplies.append {size : α → Nat} {first second : List α} {given middle rest : List β}
    {suppliedFirst suppliedSecond : List (α × List β)}
    (earlier : Supplies size first given suppliedFirst middle)
    (later : Supplies size second middle suppliedSecond rest) :
    Supplies size (first ++ second) given (suppliedFirst ++ suppliedSecond) rest := by
  refine ⟨?_, ?_, ?_⟩
  · rw [List.flatMap_append, List.append_assoc, later.values, earlier.values]
  · exact List.forall_mem_append.2 ⟨earlier.fits, later.fits⟩
  · rw [List.map_append, List.sum_append, Nat.add_assoc, later.count, earlier.count]

theorem map_supply (size : α → Nat) (formula : Formula α) (given : List β) :
    (formula.supply size given).1.map Prod.fst = formula := by
  induction formula generalizing given with
  | atom a => rfl
  | and left right ihl ihr => simp only [supply, map, ihl, ihr]
  | or left right ihl ihr => simp only [supply, map, ihl, ihr]

/-- Enough values are handed out in order. -/
theorem supplies (size : α → Nat) (formula : Formula α) {given : List β}
    (enough : (formula.atoms.map size).sum ≤ given.length) :
    Supplies size formula.atoms given (formula.supply size given).1.atoms
      (formula.supply size given).2 := by
  induction formula generalizing given with
  | atom a =>
    simp only [atoms, List.map_singleton, List.sum_singleton] at enough
    refine ⟨?_, ?_, ?_⟩
    · simp [supply, atoms]
    · simp [supply, atoms, enough]
    · simp [supply, atoms, enough]
  | and left right ihl ihr =>
    simp only [atoms, List.map_append, List.sum_append] at enough
    have first := ihl (Nat.le_of_add_right_le enough)
    have count := first.count
    exact first.append (ihr (by omega))
  | or left right ihl ihr =>
    simp only [atoms, List.map_append, List.sum_append] at enough
    have first := ihl (Nat.le_of_add_right_le enough)
    have count := first.count
    exact first.append (ihr (by omega))

end Formula

/-- Hand out values to the atoms of a chain. -/
def supplyUnits {α β : Type} (size : α → Nat) :
    List (Connective × Formula α) → List β → List (Connective × Formula (α × List β))
  | [], _ => []
  | (connective, formula) :: rest, given =>
    (connective, (formula.supply size given).1) ::
      supplyUnits size rest (formula.supply size given).2

theorem supplyUnits_spec {α β : Type} (size : α → Nat) {units : List (Connective × Formula α)}
    {given : List β} (count : ((chainAtoms units).map size).sum = given.length) :
    relabel Prod.fst (supplyUnits size units given) = units ∧
      Formula.Supplies size (chainAtoms units) given (chainAtoms (supplyUnits size units given))
        [] := by
  induction units generalizing given with
  | nil =>
    obtain rfl := List.eq_nil_of_length_eq_zero count.symm
    exact ⟨rfl, rfl, nofun, rfl⟩
  | cons unit rest ih =>
    obtain ⟨connective, formula⟩ := unit
    simp only [chainAtoms, List.flatMap_cons, List.map_append, List.sum_append] at count
    have first := formula.supplies size (Nat.le_of_add_right_le count.le)
    have counted := first.count
    have left : ((chainAtoms rest).map size).sum = (formula.supply size given).2.length := by
      rw [chainAtoms]
      omega
    obtain ⟨erased, later⟩ := ih left
    refine ⟨?_, first.append later⟩
    rw [supplyUnits, relabel, List.map_cons, Formula.map_supply, ← relabel, erased]

/-- A fragment is read as a chain of units in which every atom has its own arguments. -/
structure Fragment.Reads (fragment : Fragment)
    (bound : List (Connective × Formula (Atom × List Value))) : Prop where
  units : units? .and fragment.sql = some (relabel Prod.fst bound)
  args : fragment.args = (chainAtoms bound).flatMap Prod.snd
  fits : ∀ atom ∈ chainAtoms bound, atom.2.length = arity atom.1

namespace Fragment.Reads

variable {fragment : Fragment} {bound : List (Connective × Formula (Atom × List Value))}

theorem parse?_eq (reads : fragment.Reads bound) :
    parse? fragment.sql = (Formula.ofChain? bound).map (Formula.map Prod.fst) := by
  rw [parse?, reads.units, Option.bind_some, Formula.map_ofChain?]
  rfl

end Fragment.Reads

theorem Formula.supply_of_fits {tree : Formula (Atom × List Value)}
    (fits : ∀ atom ∈ tree.atoms, atom.2.length = arity atom.1) :
    (tree.map Prod.fst).supply arity (tree.atoms.flatMap Prod.snd) = (tree, []) := by
  have supplied := tree.supply_map arity Prod.fst Prod.snd fits []
  rwa [List.append_nil, Formula.map_id] at supplied

/-- The units of a leaf, with its arguments at their atoms. -/
def Leaf.bound (leaf : Leaf) : List (Connective × Formula (Atom × List Value)) :=
  supplyUnits arity leaf.units leaf.args

theorem Leaf.bound_spec {leaf : Leaf} (formed : leaf.IsWellFormed) (takes : leaf.TakesArguments) :
    relabel Prod.fst leaf.bound = leaf.units ∧
      Formula.Supplies arity (chainAtoms leaf.units) leaf.args (chainAtoms leaf.bound) [] := by
  refine supplyUnits_spec arity ?_
  have takesAll : ∀ other ∈ (Condition.leaf leaf).leaves, other.TakesArguments := by
    intro other member
    rw [List.mem_singleton.1 member]
    exact takes
  obtain ⟨whole, closed, args⟩ := Condition.layout_spec takesAll
  have marks := Layout.marks_fragment closed
  have count := sum_units? (units?_text formed).1
  have text : (Condition.leaf leaf).compile.sql = leaf.text := rfl
  rw [args, whole, text, ← count] at marks
  simpa [chainAtoms, places, List.map_flatMap, List.flatMap, Function.comp_def,
    Condition.leaves] using marks

theorem Leaf.bound_of_plain {leaf : Leaf} (plain : leaf.IsPlain) :
    leaf.bound = [(.and, .atom (leaf.atom, leaf.args))] := by
  rw [bound, units_of_plain plain]
  simp [supplyUnits, Formula.supply, arity_atom plain]

namespace Condition

/-- The units of a condition, with its arguments at their atoms. -/
def bound (condition : Condition) : List (Connective × Formula (Atom × List Value)) :=
  condition.units Leaf.bound

/-- The text of a condition is read as its tree, with the arguments of the leaves at the atoms of
the leaves. -/
theorem reads_compile {condition : Condition}
    (formed : ∀ leaf ∈ condition.leaves, leaf.IsWellFormed)
    (takes : ∀ leaf ∈ condition.leaves, leaf.TakesArguments) :
    condition.compile.Reads condition.bound := by
  have each leaf (member : leaf ∈ condition.leaves) :=
    Leaf.bound_spec (formed leaf member) (takes leaf member)
  obtain ⟨whole, _, args⟩ := layout_spec takes
  refine ⟨?_, ?_, ?_⟩
  · have erased : condition.units Leaf.units = relabel Prod.fst condition.bound := by
      rw [bound, relabel, ← units_map]
      exact units_congr fun leaf member => (each leaf member).1.symm
    rw [units?_compile formed, erased]
  · rw [← whole, args, bound, chainAtoms_units, List.flatMap_assoc]
    refine List.flatMap_congr fun leaf member => ?_
    exact (List.append_nil _ ▸ (each leaf member).2.values).symm
  · intro atom member
    rw [bound, chainAtoms_units] at member
    obtain ⟨leaf, listed, member⟩ := List.mem_flatMap.1 member
    exact (each leaf listed).2.fits atom member

end Condition

end DataAccess
