import DataAccess.Proofs.Sql.Compilation
import DataAccess.Sql.Query
import Mathlib.Data.List.Forall2

/-! The predicate of a query. Clauses that are read alone are read the same way beside others: the
text behind `WHERE` is their conjunction. -/
namespace DataAccess

open Sql

/-- A clause that is read, and needs no parentheses or says that it does. -/
structure Clause.IsRead (clause : Clause) (formula : Formula Atom) : Prop where
  parsed : parse? clause.fragment.sql = some formula
  single : clause.composite = false → units? .and clause.fragment.sql = some [(.and, formula)]

namespace Clause

/-- Beside others, a clause is one unit. -/
theorem IsRead.unit {clause : Clause} {formula : Formula Atom} (read : clause.IsRead formula) :
    units? .and (clause.sql true) = some [(.and, formula)] := by
  unfold sql
  cases composite : clause.composite with
  | false => exact read.single composite
  | true =>
    obtain ⟨units, whole, formula⟩ := Option.bind_eq_some_iff.1 read.parsed
    exact units?_parentheses .and whole formula

end Clause

theorem Sql.units?_intercalate {texts : List String} {formulas : List (Formula Atom)}
    (read : List.Forall₂ (fun text formula => units? .and text = some [(.and, formula)])
      texts formulas) :
    units? .and (" AND ".intercalate texts) =
      some (formulas.map fun formula => (Connective.and, formula)) := by
  induction read with
  | nil => rfl
  | @cons text formula texts formulas first rest ih =>
    cases rest with
    | nil =>
      rw [String.intercalate_singleton]
      exact first
    | @cons second formula' texts formulas next rest =>
      rw [String.intercalate_cons_cons]
      have between : " AND " = " " ++ Connective.and.name ++ " " := rfl
      rw [between, ← String.append_assoc, ← String.append_assoc]
      exact units?_tie first ih (by simp) (by simp)

namespace Clause

theorem parse?_conjunction {clauses : List Clause} {formulas : List (Formula Atom)}
    (read : List.Forall₂ IsRead clauses formulas) :
    parse? (conjunction clauses).sql = Formula.conjunction? formulas := by
  cases read with
  | nil => rfl
  | @cons clause formula clauses formulas first rest =>
    cases rest with
    | nil =>
      have alone : (conjunction [clause]).sql = clause.fragment.sql := by
        simp [conjunction, sql, String.intercalate_singleton]
      rw [alone, first.parsed]
      rfl
    | @cons second formula' clauses formulas next rest =>
      have wrap : decide (1 < (clause :: second :: clauses).length) = true := by simp
      have units : List.Forall₂ (fun text formula => units? .and text = some [(.and, formula)])
          ((clause :: second :: clauses).map (·.sql true)) (formula :: formula' :: formulas) := by
        rw [List.forall₂_map_left_iff]
        exact (List.Forall₂.cons first (.cons next rest)).imp fun _ _ read => read.unit
      rw [parse?, conjunction, wrap, units?_intercalate units]
      rfl

end Clause

/-- What a query is restricted by: a condition, or a column that is null. -/
inductive Restriction where
  | holds (condition : Condition)
  | isNull (column : String)

namespace Restriction

def text : Restriction → String
  | holds condition => condition.compile.sql
  | isNull column => column ++ " IS NULL"

def IsWellFormed : Restriction → Prop
  | holds condition => ∀ leaf ∈ condition.leaves, leaf.IsWellFormed
  | isNull column => isOperand column

def clause? : Restriction → Option Clause
  | holds condition => Clause.ofCondition? condition
  | isNull column => some (Clause.isNull column)

end Restriction

def Query.add (query : Query) : Restriction → Query
  | .holds condition => query.filter condition
  | .isNull column => query.filterNull column

theorem Query.foldl_add (restrictions : List Restriction) (query : Query) :
    restrictions.foldl Query.add query =
      { query with clauses := query.clauses ++ restrictions.filterMap Restriction.clause? } := by
  induction restrictions generalizing query with
  | nil => simp
  | cons restriction rest ih =>
    rw [List.foldl_cons, ih]
    cases restriction with
    | isNull column => simp [add, filterNull, Restriction.clause?]
    | holds condition =>
      cases clause : Clause.ofCondition? condition <;>
        simp [add, filter, Restriction.clause?, clause]

theorem Sql.units?_isNull {column : String} (operand : isOperand column) :
    units? .and (column ++ " IS NULL") =
      some [(.and, .atom ((tokens? (column ++ " IS NULL").toList).getD []))] := by
  have tail : IsTail "IS NULL" := isTail_of_mem (by simp [leafTails])
  have text : column ++ " " ++ "IS NULL" = column ++ " IS NULL" := by
    rw [String.append_assoc]
    rfl
  exact text ▸ units?_comparison operand tail .and

/-- A restriction says nothing and has no clause, or it is read and so is its clause. -/
theorem Restriction.clause?_isRead (restriction : Restriction)
    (formed : restriction.IsWellFormed) :
    (restriction.text = "" ∧ restriction.clause? = none) ∨
    (restriction.text ≠ "" ∧ ∃ clause formula, restriction.clause? = some clause ∧
      parse? restriction.text = some formula ∧ clause.IsRead formula) := by
  cases restriction with
  | isNull column =>
    have alone := units?_isNull formed
    have parsed := parse?_of_units? alone rfl
    have spoken := orBlank_of_units? ⟨column ++ " IS NULL", []⟩ alone (by simp)
    exact .inr ⟨spoken.1, _, _, rfl, parsed, parsed, fun _ => alone⟩
  | holds condition =>
    have whole := Condition.units?_compile formed
    cases units : condition.units Leaf.units with
    | nil =>
      rw [units, units?_eq_nil] at whole
      exact .inl ⟨whole, by simp [clause?, Clause.ofCondition?, Fragment.isBlank, whole]⟩
    | cons unit rest =>
      rw [units] at whole
      have spoken := (orBlank_of_units? _ whole (by simp)).1
      have parsed := parse?_of_units? whole rfl
      refine .inr ⟨spoken, ⟨condition.compile, condition.isComposite⟩, _, ?_, parsed, parsed, ?_⟩
      · simp [clause?, Clause.ofCondition?, Fragment.isBlank, spoken]
      · intro simple
        have one : (unit :: rest).length ≤ 1 :=
          units ▸ Condition.length_units Leaf.units (Leaf.length_units_le formed) simple
        obtain rfl : rest = [] := List.eq_nil_of_length_eq_zero (by simpa using one)
        obtain ⟨connective, formula⟩ := unit
        obtain rfl := units?_head whole
        exact whole

/-- The clauses of restrictions are read as the restrictions that say something. -/
theorem Restriction.forall₂_isRead {restrictions : List Restriction}
    (formed : ∀ restriction ∈ restrictions, restriction.IsWellFormed) :
    List.Forall₂ Clause.IsRead (restrictions.filterMap clause?)
      (restrictions.filterMap fun restriction => parse? restriction.text) := by
  induction restrictions with
  | nil => exact .nil
  | cons restriction rest ih =>
    have later := ih fun other member => formed other (List.mem_cons_of_mem _ member)
    rcases clause?_isRead restriction (formed restriction List.mem_cons_self) with
      ⟨blank, silent⟩ | ⟨_, clause, formula, added, parsed, read⟩
    · rw [List.filterMap_cons_none silent, List.filterMap_cons_none (by rw [blank]; rfl)]
      exact later
    · simp only [List.filterMap_cons, added, parsed]
      exact .cons read later

namespace Restriction

/-- The conjunction of restrictions, if any of them says something. -/
def predicate? (restrictions : List Restriction) : Option Fragment :=
  match restrictions.filterMap clause? with
  | [] => none
  | clauses => some (Clause.conjunction clauses)

theorem predicate?_eq_none {restrictions : List Restriction} :
    predicate? restrictions = none ↔ restrictions.filterMap clause? = [] := by
  unfold predicate?
  split <;> simp_all

theorem predicate?_eq_some {restrictions : List Restriction} {predicate : Fragment}
    (whole : predicate? restrictions = some predicate) :
    predicate = Clause.conjunction (restrictions.filterMap clause?) := by
  unfold predicate? at whole
  split at whole
  · contradiction
  · exact (Option.some.inj whole).symm

/-- There is no predicate if every restriction says nothing; a predicate is read as the conjunction
of the restrictions that say something. -/
theorem parse?_predicate {restrictions : List Restriction}
    (formed : ∀ restriction ∈ restrictions, restriction.IsWellFormed) :
    (predicate? restrictions = none ↔ ∀ restriction ∈ restrictions, restriction.text = "") ∧
    ((predicate? restrictions).bind fun predicate => parse? predicate.sql) =
      Formula.conjunction? (restrictions.filterMap fun restriction => parse? restriction.text) := by
  constructor
  · rw [predicate?_eq_none, List.filterMap_eq_nil_iff]
    refine forall₂_congr fun restriction member => ?_
    rcases clause?_isRead restriction (formed restriction member) with
      ⟨blank, silent⟩ | ⟨spoken, clause, _, added, _⟩
    · simp [blank, silent]
    · simp [spoken, added]
  · have read := forall₂_isRead formed
    cases whole : predicate? restrictions with
    | none =>
      rw [predicate?_eq_none.1 whole, List.forall₂_nil_left_iff] at read
      rw [read]
      rfl
    | some predicate =>
      rw [Option.bind_some, predicate?_eq_some whole, Clause.parse?_conjunction read]

end Restriction

theorem Query.predicate?_foldl_add {query : Query} (unrestricted : query.clauses = [])
    (restrictions : List Restriction) :
    (restrictions.foldl add query).predicate? = Restriction.predicate? restrictions := by
  rw [predicate?, hasClauses, foldl_add, unrestricted, List.nil_append]
  unfold Restriction.predicate?
  cases restrictions.filterMap Restriction.clause? <;> rfl

end DataAccess
