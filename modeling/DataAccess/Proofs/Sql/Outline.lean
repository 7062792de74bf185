import DataAccess.Sql.Query
import Mathlib.Data.List.Forall2

/-! What the values of a statement show in its text. The outline of a value says where it holds
nulls and scalars and how its lists are nested, and nothing else. Fragments with the same text and
arguments of the same outlines render to one text, in every dialect, and bind equally many
arguments. -/
namespace DataAccess

/-- The form of a value without its scalars. -/
inductive Outline where
  | null
  | scalar
  | list (items : List Outline)

mutual

def Value.outline : Value → Outline
  | .null => .null
  | .list items => .list (itemOutlines items)
  | _ => .scalar

def itemOutlines : List Value → List Outline
  | [] => []
  | item :: rest => item.outline :: itemOutlines rest

end

mutual

/-- Which of the slots of a value are bound. -/
def Outline.slots : Outline → List Bool
  | .null => [false]
  | .scalar => [true]
  | .list [] => [false]
  | .list (item :: rest) => item.slots ++ outlineSlots rest

def outlineSlots : List Outline → List Bool
  | [] => []
  | item :: rest => item.slots ++ outlineSlots rest

end

mutual

theorem Value.isSome_slots : (value : Value) → value.slots.map Option.isSome = value.outline.slots
  | .null | .bool _ | .int _ | .uint _ | .float _ | .text _ | .json _ | .list [] => rfl
  | .list (item :: rest) => by
    rw [Value.slots, List.map_append, item.isSome_slots, isSome_itemSlots rest,
      Value.outline, itemOutlines, Outline.slots]

theorem isSome_itemSlots : (items : List Value) →
    (itemSlots items).map Option.isSome = outlineSlots (itemOutlines items)
  | [] => rfl
  | item :: rest => by
    rw [itemSlots, List.map_append, item.isSome_slots, isSome_itemSlots rest, itemOutlines,
      outlineSlots]

end

theorem Value.isSome_slots_eq {first second : Value} (alike : first.outline = second.outline) :
    first.slots.map Option.isSome = second.slots.map Option.isSome := by
  rw [isSome_slots, isSome_slots, alike]

namespace Dialect

theorem slotsText_eq_of_isSome (dialect : Dialect) {first second : List (Option Value)}
    (alike : first.map Option.isSome = second.map Option.isSome) (bound : Nat) :
    dialect.slotsText bound first = dialect.slotsText bound second := by
  induction first generalizing second bound with
  | nil =>
    obtain rfl := List.map_eq_nil_iff.1 alike.symm
    rfl
  | cons slot rest ih =>
    cases second with
    | nil => contradiction
    | cons other others =>
      obtain ⟨here, later⟩ := List.cons_eq_cons.1 alike
      cases slot <;> cases other <;> first | contradiction | simp only [slotsText, ih later]

theorem length_scalars_eq_of_isSome {first second : List (Option Value)}
    (alike : first.map Option.isSome = second.map Option.isSome) :
    (first.filterMap id).length = (second.filterMap id).length := by
  have counted (slots : List (Option Value)) :
      (slots.filterMap id).length = (slots.map Option.isSome).count true := by
    induction slots with
    | nil => rfl
    | cons slot rest ih =>
      cases slot with
      | none => simpa using ih
      | some value => simpa using ih
  rw [counted, counted, alike]

/-- Rendering shows the outlines of the arguments only. -/
theorem renderFrom_of_outlines (dialect : Dialect) (text : List Char) {first second : List Value}
    (alike : first.map Value.outline = second.map Value.outline) (quote : QuoteState)
    (bound : Nat) :
    (dialect.renderFrom quote bound first text).1 =
        (dialect.renderFrom quote bound second text).1 ∧
      (dialect.renderFrom quote bound first text).2.length =
        (dialect.renderFrom quote bound second text).2.length := by
  induction text generalizing first second quote bound with
  | nil => exact ⟨rfl, rfl⟩
  | cons c rest ih =>
    simp only [renderFrom]
    split
    · cases first with
      | nil =>
        obtain rfl := List.map_eq_nil_iff.1 alike.symm
        exact ⟨rfl, rfl⟩
      | cons value values =>
        cases second with
        | nil => contradiction
        | cons other others =>
          obtain ⟨here, later⟩ := List.cons_eq_cons.1 alike
          have slots := Value.isSome_slots_eq here
          have scalars := length_scalars_eq_of_isSome slots
          have behind := ih later quote (bound + (value.slots.filterMap id).length)
          simp only [slotsText_eq_of_isSome dialect slots, List.length_append, behind.1, behind.2,
            ← scalars, and_self]
    · exact ⟨congrArg (c :: ·) (ih alike _ bound).1, (ih alike _ bound).2⟩

end Dialect

/-- The same text, with arguments of the same outlines. -/
structure Fragment.Alike (first second : Fragment) : Prop where
  sql : first.sql = second.sql
  args : first.args.map Value.outline = second.args.map Value.outline

/-- The same text, with equally many bound arguments. -/
structure Statement.Alike (first second : Statement) : Prop where
  sql : first.sql = second.sql
  args : first.args.length = second.args.length

namespace Fragment.Alike

variable {first second : Fragment}

theorem refl (fragment : Fragment) : fragment.Alike fragment := ⟨rfl, rfl⟩

theorem render (alike : first.Alike second) (dialect : Dialect) :
    (first.render dialect).Alike (second.render dialect) := by
  have rendered := dialect.renderFrom_of_outlines second.sql.toList alike.args none 0
  unfold Fragment.render Dialect.render
  rw [alike.sql]
  exact ⟨congrArg String.ofList rendered.1, rendered.2⟩

theorem inParentheses (alike : first.Alike second) :
    first.inParentheses.Alike second.inParentheses :=
  ⟨congrArg (fun text => "(" ++ text ++ ")") alike.sql, alike.args⟩

theorem isBlank (alike : first.Alike second) : first.isBlank = second.isBlank := by
  rw [Fragment.isBlank, Fragment.isBlank, alike.sql]

theorem orBlank (alike : first.Alike second) : first.orBlank.Alike second.orBlank := by
  unfold Fragment.orBlank
  rw [alike.sql]
  split
  · exact refl _
  · exact alike

theorem append (alike : first.Alike second) (between : String) {first' second' : Fragment}
    (alike' : first'.Alike second') :
    Fragment.Alike ⟨first.sql ++ between ++ first'.sql, first.args ++ first'.args⟩
      ⟨second.sql ++ between ++ second'.sql, second.args ++ second'.args⟩ :=
  ⟨by rw [alike.sql, alike'.sql], by simp only [List.map_append, alike.args, alike'.args]⟩

theorem tie (connective : Connective) (left : first.Alike second) {first' second' : Fragment}
    (right : first'.Alike second') :
    (Fragment.tie connective first first').Alike (Fragment.tie connective second second') := by
  unfold Fragment.tie
  rw [left.isBlank, right.isBlank]
  split
  · exact left
  · split
    · exact right
    · have whole := left.append (" " ++ connective.name ++ " ") right
      simpa only [String.append_assoc] using whole

end Fragment.Alike

/-- Conditions that stand in a chain alike, with the same text and arguments of the same
outlines. -/
structure Condition.Alike (first second : Condition) : Prop where
  empty : first.isEmpty = second.isEmpty
  join : first.isJoin = second.isJoin
  raw : first.isRawLeaf = second.isRawLeaf
  compiled : first.compile.Alike second.compile

namespace Condition

theorem Alike.refl (condition : Condition) : condition.Alike condition :=
  ⟨rfl, rfl, rfl, .refl _⟩

theorem Alike.leaf {first second : Leaf} (raw : first.isRaw = second.isRaw)
    (fragment : first.fragment = second.fragment)
    (args : first.args.map Value.outline = second.args.map Value.outline) :
    (leaf first).Alike (leaf second) :=
  ⟨rfl, rfl, raw, Fragment.Alike.orBlank ⟨fragment, args⟩⟩

theorem Alike.operandFragment {first second : Condition} (alike : first.Alike second) :
    (first.operandFragment first.compile).Alike (second.operandFragment second.compile) := by
  unfold Condition.operandFragment
  rw [alike.join, alike.raw]
  split
  · exact alike.compiled.inParentheses.orBlank
  · exact alike.compiled.orBlank

theorem Alike.append (connective : Connective) {first second operand operand' : Condition}
    (chains : first.Alike second) (operands : operand.Alike operand') :
    (append connective first operand).Alike (append connective second operand') := by
  have tied : (Condition.join first connective operand).Alike
      (Condition.join second connective operand') :=
    ⟨rfl, rfl, rfl, chains.compiled.tie connective operands.operandFragment⟩
  have empty := chains.empty
  cases first with
  | empty =>
    cases second with
    | empty => exact ⟨rfl, rfl, rfl, operands.operandFragment⟩
    | _ => contradiction
  | _ =>
    cases second with
    | empty => contradiction
    | _ => exact tied

theorem Alike.foldl (connective : Connective) {operands operands' : List Condition}
    (listed : List.Forall₂ Alike operands operands') {first second : Condition}
    (chains : first.Alike second) :
    (operands.foldl (Condition.append connective) first).Alike
      (operands'.foldl (Condition.append connective) second) := by
  induction listed generalizing first second with
  | nil => exact chains
  | cons here _ ih => exact ih (chains.append connective here)

end Condition

/-- Clauses of the same text, with arguments of the same outlines. -/
structure Clause.Alike (first second : Clause) : Prop where
  fragment : first.fragment.Alike second.fragment
  composite : first.composite = second.composite

namespace Clause

theorem Alike.refl (clause : Clause) : clause.Alike clause := ⟨.refl _, rfl⟩

theorem Alike.sql {first second : Clause} (alike : first.Alike second) (wrap : Bool) :
    first.sql wrap = second.sql wrap := by
  simp only [Clause.sql, alike.composite, alike.fragment.sql, alike.fragment.inParentheses.sql]

theorem forall₂_ofCondition? {first second : Condition} (alike : first.Alike second) :
    List.Forall₂ Alike (ofCondition? first).toList (ofCondition? second).toList := by
  unfold ofCondition?
  simp only [alike.compiled.isBlank]
  split
  · exact .nil
  · refine .cons ⟨alike.compiled, ?_⟩ .nil
    simp only [Condition.isComposite, alike.join, alike.raw]

theorem Alike.conjunction {clauses clauses' : List Clause}
    (alike : List.Forall₂ Alike clauses clauses') :
    (conjunction clauses).Alike (conjunction clauses') := by
  refine ⟨?_, ?_⟩
  · unfold Clause.conjunction
    rw [alike.length_eq]
    generalize decide (1 < clauses'.length) = wrap
    have texts : clauses.map (·.sql wrap) = clauses'.map (·.sql wrap) := by
      induction alike with
      | nil => rfl
      | cons here _ ih => rw [List.map_cons, List.map_cons, here.sql wrap, ih]
    exact congrArg (" AND ".intercalate ·) texts
  · simp only [Clause.conjunction, List.map_flatMap]
    induction alike with
    | nil => rfl
    | cons here _ ih => rw [List.flatMap_cons, List.flatMap_cons, here.fragment.args, ih]

end Clause

/-- Queries that differ in their clauses only, and there in the scalars only. -/
structure Query.Alike (first second : Query) : Prop where
  rest : { second with clauses := first.clauses } = first
  clauses : List.Forall₂ Clause.Alike first.clauses second.clauses

namespace Query.Alike

variable {first second : Query}

theorem source (alike : first.Alike second) : first.source.Alike second.source := by
  have conjunction := Clause.Alike.conjunction alike.clauses
  have empty : first.hasClauses = second.hasClauses := by
    have listed := alike.clauses
    unfold hasClauses
    generalize first.clauses = clauses at listed
    generalize second.clauses = clauses' at listed
    cases listed <;> rfl
  obtain ⟨table, joins⟩ : first.table = second.table ∧ first.joins = second.joins := by
    rw [← alike.rest]
    exact ⟨rfl, rfl⟩
  unfold Query.source Query.predicate?
  rw [empty, table, joins]
  cases second.hasClauses with
  | false => exact .refl _
  | true =>
    refine ⟨?_, conjunction.args⟩
    simp only [if_true, conjunction.sql]

theorem select (alike : first.Alike second) (columns : String) :
    (first.select columns).Alike (second.select columns) := by
  have rest : first.groupText = second.groupText ∧ first.orderText = second.orderText ∧
      first.windowText = second.windowText ∧ first.dialect = second.dialect := by
    rw [← alike.rest]
    exact ⟨rfl, rfl, rfl, rfl⟩
  obtain ⟨group, order, window, dialect⟩ := rest
  have template : (first.selectTemplate columns).Alike (second.selectTemplate columns) := by
    refine ⟨?_, alike.source.args⟩
    simp only [selectTemplate, alike.source.sql, group, order, window]
  unfold Query.select
  rw [dialect]
  exact template.render _

theorem count (alike : first.Alike second) : first.count.Alike second.count := by
  have rest : first.groupBy = second.groupBy ∧ first.groupText = second.groupText ∧
      first.dialect = second.dialect := by
    rw [← alike.rest]
    exact ⟨rfl, rfl, rfl⟩
  obtain ⟨groupBy, group, dialect⟩ := rest
  have template : first.countTemplate.Alike second.countTemplate := by
    unfold countTemplate
    rw [groupBy]
    split
    · exact ⟨congrArg ("SELECT COUNT(*)" ++ ·) alike.source.sql, alike.source.args⟩
    · refine ⟨?_, alike.source.args⟩
      simp only [alike.source.sql, group]
  unfold Query.count
  rw [dialect]
  exact template.render _

theorem filter {condition condition' : Condition} (queries : first.Alike second)
    (conditions : condition.Alike condition') :
    (first.filter condition).Alike (second.filter condition') := by
  refine ⟨?_, List.rel_append queries.clauses (Clause.forall₂_ofCondition? conditions)⟩
  rw [← queries.rest]
  rfl

theorem filterNull (alike : first.Alike second) (column : String) :
    (first.filterNull column).Alike (second.filterNull column) := by
  refine ⟨?_, List.rel_append alike.clauses (.cons (.refl _) .nil)⟩
  rw [← alike.rest]
  rfl

theorem refl (query : Query) : query.Alike query :=
  ⟨rfl, List.forall₂_same.2 fun clause _ => .refl clause⟩

end Query.Alike

end DataAccess
