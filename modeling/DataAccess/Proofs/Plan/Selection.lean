import DataAccess.Proofs.Plan.PlainText
import DataAccess.Proofs.Plan.Scope
import DataAccess.Proofs.Sql.Supply

/-! Which rows a query keeps. What is true of a row is given for the comparisons and their
arguments; the predicate of a query, read as a backend reads it, then says what is true of the whole
row. For the restrictions of a query this is the conjunction of what each of them says. -/
namespace DataAccess

open Sql

variable {τ : Type} [Lattice τ]

/-- What a fragment says of a row, given what is true of its comparisons. -/
def Fragment.truth? (truth : Atom × List Value → τ) (fragment : Fragment) : Option τ :=
  (parse? fragment.sql).map fun formula => (formula.supply arity fragment.args).1.eval truth

variable [BoundedOrder τ]

/-- What a query says of a row; one without a predicate says nothing, which holds. -/
def Query.truth? (truth : Atom × List Value → τ) (query : Query) : Option τ :=
  match query.predicate? with
  | none => some ⊤
  | some predicate => predicate.truth? truth

/-- Whether a query keeps a row. -/
def Query.Keeps (query : Query) (truth : Atom × List Value → τ) : Prop :=
  query.truth? truth = some ⊤

namespace Restriction

/-- The units of a restriction, with its arguments at their atoms. -/
def bound : Restriction → List (Connective × Formula (Atom × List Value))
  | holds condition => condition.bound
  | isNull column => [(.and, .atom ((tokens? (column ++ " IS NULL").toList).getD [], []))]

theorem reads {restriction : Restriction} (formed : restriction.IsWellFormed)
    (takes : restriction.TakesArguments) :
    Fragment.Reads ⟨restriction.text, restriction.args⟩ restriction.bound := by
  cases restriction with
  | holds condition =>
    obtain ⟨whole, _, args⟩ := Condition.layout_spec takes
    have same : (⟨condition.compile.sql, condition.leaves.flatMap Leaf.args⟩ : Fragment) =
        condition.compile := by
      rw [← args, whole]
    simp only [text, Restriction.args, same]
    exact Condition.reads_compile formed takes
  | isNull column =>
    have alone := units?_isNull formed
    refine ⟨alone, rfl, ?_⟩
    intro atom member
    obtain rfl := List.mem_singleton.1 member
    have count := sum_units? alone
    have plain : IsPlainText (column ++ " IS NULL") := takes.append (by decide)
    rw [(IsPlainText.iff_marks.1 plain).1] at count
    simpa [places, Formula.atoms] using count.symm

/-- The formulas of restrictions with their arguments: those of a restriction that says nothing are
left out. -/
def trees (restrictions : List Restriction) : List (Formula (Atom × List Value)) :=
  restrictions.filterMap fun restriction => Formula.ofChain? restriction.bound

theorem atoms_trees (restrictions : List Restriction) :
    (trees restrictions).flatMap Formula.atoms =
      restrictions.flatMap fun restriction => chainAtoms restriction.bound := by
  induction restrictions with
  | nil => rfl
  | cons restriction rest ih =>
    rw [trees, List.filterMap_cons, List.flatMap_cons, ← ih, chainAtoms,
      ← Formula.getD_atoms_ofChain?]
    cases Formula.ofChain? restriction.bound <;> rfl

theorem allOf_trees (truth : Atom × List Value → τ) (restrictions : List Restriction) :
    allOf ((trees restrictions).map (Formula.eval truth)) =
      allOf (restrictions.map fun restriction => chainTruth truth restriction.bound) := by
  induction restrictions with
  | nil => rfl
  | cons restriction rest ih =>
    have cons (value : τ) (rest : List τ) : allOf (value :: rest) = value ⊓ allOf rest := rfl
    rw [trees, List.filterMap_cons, List.map_cons, cons, ← ih, chainTruth]
    cases Formula.ofChain? restriction.bound with
    | none => exact (top_inf_eq _).symm
    | some tree => rfl

section Conjunction

variable {restrictions : List Restriction}
  (formed : ∀ restriction ∈ restrictions, restriction.IsWellFormed)
  (takes : ∀ restriction ∈ restrictions, restriction.TakesArguments)
include formed takes

theorem map_trees : (restrictions.filterMap fun restriction => parse? restriction.text) =
    (trees restrictions).map (Formula.map Prod.fst) := by
  rw [trees, List.map_filterMap]
  exact List.filterMap_congr fun restriction member =>
    (reads (formed restriction member) (takes restriction member)).parse?_eq

/-- The atoms of restrictions have all of their arguments, and each has as many as it takes. -/
theorem args_trees :
    restrictions.flatMap Restriction.args =
        ((trees restrictions).flatMap Formula.atoms).flatMap Prod.snd ∧
      ∀ atom ∈ (trees restrictions).flatMap Formula.atoms, atom.2.length = arity atom.1 := by
  have each restriction (member : restriction ∈ restrictions) :=
    reads (formed restriction member) (takes restriction member)
  rw [atoms_trees, List.flatMap_assoc]
  refine ⟨List.flatMap_congr fun restriction member => (each restriction member).args, ?_⟩
  intro atom member
  obtain ⟨restriction, listed, member⟩ := List.mem_flatMap.1 member
  exact (each restriction listed).fits atom member

theorem predicate?_of_trees (silent : trees restrictions = []) :
    predicate? restrictions = none := by
  refine (parse?_predicate formed).1.2 fun restriction member => ?_
  have units := (reads (formed restriction member) (takes restriction member)).units
  have alone := List.filterMap_eq_nil_iff.1 silent restriction member
  rwa [Formula.ofChain?_eq_none.1 alone, relabel, List.map_nil, units?_eq_nil] at units

/-- The conjunction of restrictions says of a row what all of them say. -/
theorem truth?_predicate (truth : Atom × List Value → τ) :
    (match predicate? restrictions with
      | none => some ⊤
      | some predicate => predicate.truth? truth) =
      some (allOf (restrictions.map fun restriction => chainTruth truth restriction.bound)) := by
  have whole : ((predicate? restrictions).bind fun predicate => parse? predicate.sql) =
      (Formula.conjunction? (trees restrictions)).map (Formula.map Prod.fst) := by
    rw [(parse?_predicate formed).2, map_trees formed takes, Formula.conjunction?,
      Formula.conjunction?, Formula.map_ofChain?, List.map_map, List.map_map]
    rfl
  rw [← allOf_trees, ← Formula.eval_conjunction]
  cases conjunction : Formula.conjunction? (trees restrictions) with
  | none =>
    rw [Formula.conjunction?, Formula.ofChain?_eq_none, List.map_eq_nil_iff] at conjunction
    rw [predicate?_of_trees formed takes conjunction]
    rfl
  | some tree =>
    rw [conjunction] at whole
    obtain ⟨predicate, stated, parsed⟩ := Option.bind_eq_some_iff.1 whole
    obtain ⟨placed, _, placedArgs⟩ := predicateLayout?_spec takes
    obtain ⟨args, fits⟩ := args_trees formed takes
    -- the arguments of the text are those of the atoms in order, so each atom is given its own
    have atoms : tree.atoms = (trees restrictions).flatMap Formula.atoms := by
      rw [Formula.atoms_of_ofChain? conjunction, List.flatMap_map]
    rw [← atoms] at args fits
    have given : predicate.args = tree.atoms.flatMap Prod.snd := by
      rw [placed] at stated
      obtain ⟨layout, laid, rfl⟩ := Option.map_eq_some_iff.1 stated
      rw [← args, ← placedArgs, laid]
      rfl
    rw [stated]
    dsimp only
    rw [Fragment.truth?, parsed, Option.map_some, given, Formula.supply_of_fits fits]
    rfl

end Conjunction

end Restriction

theorem Query.truth?_restrict {query : Query} (unrestricted : query.clauses = [])
    {condition : Option Condition} {scope : Option String}
    (formed : ∀ restriction ∈ Restriction.ofScope condition scope, restriction.IsWellFormed)
    (takes : ∀ restriction ∈ Restriction.ofScope condition scope, restriction.TakesArguments)
    (truth : Atom × List Value → τ) :
    (query.restrict condition scope).truth? truth =
      some (allOf ((Restriction.ofScope condition scope).map fun restriction =>
        chainTruth truth restriction.bound)) := by
  unfold truth?
  rw [predicate?_restrict query unrestricted]
  exact Restriction.truth?_predicate formed takes truth

/-- The names of an entity that stand in every statement are identifiers. -/
structure Schema.IsNamed (schema : Schema) : Prop where
  table : isIdentifier schema.table false
  marker : ∀ marker ∈ schema.softDelete, isIdentifier marker false

namespace Planner

variable {schema : Schema} {planner : Planner schema}

theorem isNamed_of_make {spec : Spec} {settings : Settings} {unscoped : Bool}
    (made : make schema spec settings unscoped = .ok planner) : schema.IsNamed :=
  ⟨(make_eq made).2.1, (make_eq made).2.2⟩

/-- What the deletion marker says of a row, if deleted rows are hidden. -/
def live (planner : Planner schema) (truth : Atom × List Value → τ) : τ :=
  match planner.scope? with
  | none => ⊤
  | some column => truth (nullAtom column, [])

theorem scope?_eq_some {column : String} (hides : planner.scope? = some column) :
    ∃ marker ∈ schema.softDelete, column = schema.qualified marker := by
  unfold scope? at hides
  split at hides
  · contradiction
  · obtain ⟨marker, marked, rfl⟩ := Option.map_eq_some_iff.1 hides
    exact ⟨marker, marked, rfl⟩

/-- What a query of a planner says of a row: what the condition says, and the deletion marker. -/
theorem truth?_restrict (planner : Planner schema) (named : schema.IsNamed) {query : Query}
    (unrestricted : query.clauses = []) {condition : Condition}
    (formed : ∀ leaf ∈ condition.leaves, leaf.IsWellFormed)
    (takes : ∀ leaf ∈ condition.leaves, leaf.TakesArguments) (truth : Atom × List Value → τ) :
    (query.restrict (some condition) planner.scope?).truth? truth =
      some (chainTruth truth condition.bound ⊓ planner.live truth) := by
  have operand : ∀ column ∈ planner.scope?,
      isOperand column ∧ IsPlainText column ∧
        (tokens? (column ++ " IS NULL").toList).getD [] = nullAtom column := by
    intro column hides
    obtain ⟨marker, marked, rfl⟩ := scope?_eq_some hides
    have markerNamed := named.marker marker marked
    have operand := isOperand_qualified named.table markerNamed
    refine ⟨operand, .qualified named.table markerNamed, ?_⟩
    have read := parse?_of_units? (units?_isNull operand) rfl
    rw [parse?_isNull named.table markerNamed] at read
    exact (Formula.atom.inj (Option.some.inj read)).symm
  rw [Query.truth?_restrict unrestricted]
  · unfold live
    cases hides : planner.scope? with
    | none => rfl
    | some column =>
      have marker : chainTruth truth (Restriction.isNull column).bound =
          truth (nullAtom column, []) := by
        rw [← (operand column hides).2.2]
        rfl
      have both : allOf [chainTruth truth condition.bound,
          chainTruth truth (Restriction.isNull column).bound] =
          chainTruth truth condition.bound ⊓ truth (nullAtom column, []) := by
        simp [allOf, marker]
      exact congrArg some both
  · refine Restriction.forall_ofScope.2 ⟨?_, fun column hides => (operand column hides).1⟩
    rintro _ ⟨⟩
    exact formed
  · refine Restriction.forall_ofScope.2 ⟨?_, fun column hides => (operand column hides).2.1⟩
    rintro _ ⟨⟩
    exact takes

end Planner

end DataAccess
