import DataAccess.Proofs.Listing.Filter
import DataAccess.Proofs.Sql.Alternatives
import DataAccess.Repository.Service

/-! What a service lists. The filters of a request are tied to the end of the caller's condition, so
they restrict its last alternative only. -/
namespace DataAccess

open Sql

namespace Condition

theorem units?_and {condition operand : Condition} {units : List (Connective × Formula Atom)}
    (readable : units? .and condition.compile.sql = some units)
    (formed : ∀ leaf ∈ operand.leaves, leaf.IsWellFormed) :
    units? .and (condition.and operand).compile.sql =
      some (joinUnits .and (operand.units Leaf.units) units) := by
  have right connective :=
    units?_operandFragment connective (Leaf.length_units_le formed) (units?_compile formed)
  cases condition with
  | empty =>
    cases readable
    exact right .and
  | _ => exact units?_join .and readable right

end Condition

namespace Repository

variable {schema : Schema} (repository : Repository schema)

/-- The predicate of a listing is the caller's condition with the filters of the request as one more
operand. It implies the condition, and it is the conjunction of both exactly if every alternative of
the condition but the last implies the filters; whatever the alternatives are, exactly if there are
no filters or the condition has no `OR` outside parentheses. -/
theorem listCondition_restricts_iff {options : ReadOptions}
    (named : (repository.specFor options).NamesOperands) (request : ListingRequest) :
    repository.listCondition none request options = repository.compile request options ∧
    ∃ filters, units? .and (repository.compile request options).compile.sql = some filters ∧
    ∀ (condition : Condition) (units : List (Connective × Formula Atom)),
      units? .and condition.compile.sql = some units →
      units? .and (repository.listCondition (some condition) request options).compile.sql =
        some (joinUnits .and filters units) ∧
      (∀ (β τ : Type) [DistribLattice τ] [BoundedOrder τ] (atom : β → Atom) (truth : β → τ)
        (labelledFilters labelledUnits : List (Connective × Formula β)),
        relabel atom labelledFilters = filters → relabel atom labelledUnits = units →
        chainTruth truth (joinUnits .and labelledFilters labelledUnits) ≤
          chainTruth truth labelledUnits ∧
        (chainTruth truth (joinUnits .and labelledFilters labelledUnits) =
            chainTruth truth labelledUnits ⊓ chainTruth truth labelledFilters ↔
          ∀ alternative ∈ (chainAlternatives truth labelledUnits).dropLast,
            allOf alternative ≤ chainTruth truth labelledFilters)) ∧
      (Restricts filters units ↔ filters = [] ∨ ∀ unit ∈ units.tail, unit.1 = .and) := by
  have formed := Spec.isWellFormed_of_compile named request
  refine ⟨rfl, _, Condition.units?_compile formed, fun condition units readable => ?_⟩
  refine ⟨Condition.units?_and readable formed, ?_, restricts_iff⟩
  intro β τ _ _ atom truth labelledFilters labelledUnits _ _
  exact ⟨chainTruth_joinUnits_le truth _ _, chainTruth_joinUnits_iff truth _ _⟩

/-- Users that requests filter by status. -/
def usersByStatus : Repository ⟨"users", .i64, "id", ["id"], none, none, []⟩ :=
  ⟨{ Spec.empty with filterable := .ofList [("status", ⟨none, .equal⟩)] }, .default, .pool⟩

theorem listCondition_restricts_iff_of_owner :
    let request := ListingRequest.default.filter "status" (.text "open")
    (usersByStatus.specFor .default).NamesOperands ∧
    ∃ filters units,
      units? .and (usersByStatus.compile request .default).compile.sql = some filters ∧
      units? .and (Condition.eq "owner" (.int 1)).compile.sql = some units ∧
      Restricts filters units := by
  intro request
  have named : (usersByStatus.specFor .default).NamesOperands := by
    refine ⟨by simp [usersByStatus, specFor, ReadOptions.default, Spec.empty], ?_⟩
    intro key field found
    obtain ⟨entry, listed, rfl⟩ := Option.map_eq_some_iff.1 found
    have key := List.find?_some listed
    have member : entry ∈ [("status", ⟨none, .equal⟩)] := List.mem_of_find?_eq_some listed
    obtain rfl := List.mem_singleton.1 member
    simp at key
    subst key
    rfl
  obtain ⟨_, filters, read, exact_⟩ := listCondition_restricts_iff usersByStatus named request
  obtain ⟨_, _, restricts⟩ := exact_ (.eq "owner" (.int 1)) _ rfl
  exact ⟨named, filters, _, read, rfl, restricts.2 (.inr (by simp))⟩

/-- With an alternative in front, the filters are lost on it: a row of that owner is listed whatever
its status. -/
theorem list_loses_filters_on_alternatives :
    let request := ListingRequest.default.filter "status" (.text "open")
    let condition := (Condition.eq "owner" (.int 1)).or (.eq "owner" (.int 2))
    let listed := usersByStatus.listCondition (some condition) request .default
    listed.compile.sql = "owner = ? OR owner = ? AND status = ?" ∧
    ∃ whole alone filters, parse? listed.compile.sql = some whole ∧
      parse? condition.compile.sql = some alone ∧
      parse? (usersByStatus.compile request .default).compile.sql = some filters ∧
      ∃ truth : Atom → Bool,
        whole.eval truth = true ∧ (Formula.and alone filters).eval truth = false := by
  refine ⟨rfl, _, _, _, rfl, rfl, rfl, fun atom => atom.head? == some (.word "owner".toList), ?_⟩
  exact ⟨rfl, rfl⟩

end Repository

end DataAccess
