import DataAccess.Plan.Planner
import DataAccess.Proofs.Sql.Placement

/-! What a planned statement consists of: a head with its arguments in place, the restrictions
behind `WHERE`, and a tail without arguments. -/
namespace DataAccess

structure Shape where
  head : Layout
  restrictions : List Restriction
  tail : String

namespace Shape

def template (shape : Shape) : Fragment :=
  match Restriction.predicate? shape.restrictions with
  | none => ⟨shape.head.fragment.sql ++ shape.tail, shape.head.fragment.args⟩
  | some predicate =>
    ⟨shape.head.fragment.sql ++ " WHERE " ++ predicate.sql ++ shape.tail,
      shape.head.fragment.args ++ predicate.args⟩

def statement (shape : Shape) (dialect : Dialect) : Statement := shape.template.render dialect

/-- The whole statement, with every argument in place. -/
def layout (shape : Shape) : Layout :=
  match Restriction.predicateLayout? shape.restrictions with
  | none => shape.head ++ [.text shape.tail]
  | some predicate => shape.head ++ .text " WHERE " :: predicate ++ [.text shape.tail]

structure TakesArguments (shape : Shape) : Prop where
  head : shape.head.IsClosed
  restrictions : ∀ restriction ∈ shape.restrictions, restriction.TakesArguments
  tail : IsPlainText shape.tail

/-- A statement has the arguments of its head and then those of its restrictions in place. -/
theorem layout_spec {shape : Shape} (takes : shape.TakesArguments) :
    shape.layout.IsClosed ∧ shape.template = shape.layout.fragment ∧
    shape.layout.fragment.args =
      shape.head.fragment.args ++ shape.restrictions.flatMap Restriction.args := by
  obtain ⟨whole, closed, args⟩ := Restriction.predicateLayout?_spec takes.restrictions
  rw [← args]
  unfold template layout
  rw [whole]
  cases predicate : Restriction.predicateLayout? shape.restrictions with
  | none =>
    refine ⟨takes.head.append takes.tail, ?_, ?_⟩ <;> simp
  | some layout =>
    have placed := closed layout predicate
    refine ⟨(takes.head.append (Layout.isClosed_text_cons (by decide) placed)).append takes.tail,
      ?_, ?_⟩
    · simp [String.append_assoc]
    · simp

end Shape

/-- The restrictions to a caller's condition and to the rows where a marker is null. -/
def Restriction.ofScope (condition : Option Condition) (scope : Option String) :
    List Restriction :=
  (condition.map holds).toList ++ (scope.map isNull).toList

theorem Restriction.forall_ofScope {holds : Restriction → Prop} {condition : Option Condition}
    {scope : Option String} :
    (∀ restriction ∈ ofScope condition scope, holds restriction) ↔
      (∀ given ∈ condition, holds (.holds given)) ∧ ∀ column ∈ scope, holds (.isNull column) := by
  cases condition <;> cases scope <;> simp [ofScope]

namespace Query

def tables (query : Query) : String :=
  " FROM " ++ query.table ++ String.join (query.joins.map (" " ++ ·))

theorem restrict_eq (query : Query) (condition : Option Condition) (scope : Option String) :
    query.restrict condition scope = (Restriction.ofScope condition scope).foldl add query := by
  cases condition <;> cases scope <;> rfl

theorem predicate?_restrict (query : Query) (unrestricted : query.clauses = [])
    (condition : Option Condition) (scope : Option String) :
    (query.restrict condition scope).predicate? =
      Restriction.predicate? (Restriction.ofScope condition scope) := by
  rw [restrict_eq, predicate?_foldl_add unrestricted]

end Query

namespace Shape

def select (query : Query) (restrictions : List Restriction) (columns : String) : Shape :=
  ⟨[.text ("SELECT " ++ columns ++ query.tables)], restrictions,
    query.groupText ++ query.orderText ++ query.windowText⟩

def count (query : Query) (restrictions : List Restriction) : Shape :=
  if query.groupBy.isEmpty then ⟨[.text ("SELECT COUNT(*)" ++ query.tables)], restrictions, ""⟩
  else
    ⟨[.text ("SELECT COUNT(*) FROM (SELECT 1" ++ query.tables)], restrictions,
      query.groupText ++ ") AS grouped"⟩

variable {query : Query} {restrictions : List Restriction}

theorem restrictions_count : (count query restrictions).restrictions = restrictions := by
  unfold count
  split <;> rfl

theorem statement_select (restricted : query.predicate? = Restriction.predicate? restrictions)
    (columns : String) :
    query.select columns = (select query restrictions columns).statement query.dialect := by
  unfold Query.select statement
  congr 1
  simp only [Query.selectTemplate, Query.source, template, select, Query.tables, restricted]
  cases Restriction.predicate? restrictions <;> simp [String.append_assoc]

theorem statement_count (restricted : query.predicate? = Restriction.predicate? restrictions) :
    query.count = (count query restrictions).statement query.dialect := by
  unfold Query.count statement Query.countTemplate count
  congr 1
  by_cases grouped : query.groupBy.isEmpty
  · rw [if_pos grouped, if_pos grouped]
    simp only [Query.source, template, Query.tables, restricted]
    cases Restriction.predicate? restrictions <;> simp [String.append_assoc]
  · rw [if_neg grouped, if_neg grouped]
    simp only [Query.source, template, Query.tables, restricted]
    cases Restriction.predicate? restrictions <;> simp [String.append_assoc]

end Shape

end DataAccess
