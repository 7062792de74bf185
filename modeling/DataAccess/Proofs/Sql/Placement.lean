import DataAccess.Proofs.Sql.Conjunction
import DataAccess.Proofs.Sql.Layout

/-! Where the arguments of a condition stand. Each leaf has its arguments at its own question marks,
and a condition keeps its leaves, and so their arguments, from left to right. -/
namespace DataAccess

/-- A raw text, with arguments at its question marks outside quotes. -/
def Layout.ofRaw (state : QuoteState) : List Char → List Value → Layout
  | [], _ => []
  | c :: rest, args =>
    if state = none ∧ c = '?' then
      match args with
      | value :: args => .argument value :: ofRaw state rest args
      | [] => .text "?" :: ofRaw state rest []
    else .text (String.singleton c) :: ofRaw (state.next c) rest args

namespace Leaf

def layout : Leaf → Layout
  | compare column comparison value =>
    [.text (column ++ " " ++ comparison.symbol ++ " "), .argument value]
  | inList column values => [.text (column ++ " IN ("), .argument (.list values), .text ")"]
  | notInList _ [] => [.text "1 = 1"]
  | notInList column (value :: values) =>
    [.text (column ++ " NOT IN ("), .argument (.list (value :: values)), .text ")"]
  | like column pattern => [.text (column ++ " LIKE "), .argument (.text pattern)]
  | likeLowered column pattern =>
    [.text ("LOWER(" ++ column ++ ") LIKE "), .argument (.text (Text.lowercase pattern))]
  | isNull column => [.text (column ++ " IS NULL")]
  | isNotNull column => [.text (column ++ " IS NOT NULL")]
  | between column low high =>
    [.text (column ++ " BETWEEN "), .argument low, .text " AND ", .argument high]
  | notBetween column low high =>
    [.text (column ++ " NOT BETWEEN "), .argument low, .text " AND ", .argument high]
  | raw sql args => .ofRaw none sql.toList args

/-- A column that is plain text, or raw text with as many question marks as arguments. -/
def TakesArguments (leaf : Leaf) : Prop :=
  match leaf with
  | raw sql args =>
    QuoteState.after none sql.toList = none ∧ QuoteState.marks none sql.toList = args.length
  | leaf => ∀ column ∈ leaf.column?, IsPlainText column

end Leaf

theorem Layout.ofRaw_spec {state : QuoteState} {text : List Char} {args : List Value}
    (count : state.marks text = args.length) :
    (ofRaw state text args).fragment = ⟨String.ofList text, args⟩ ∧
      (ofRaw state text args).scan state = some (state.after text) := by
  induction text generalizing state args with
  | nil =>
    obtain rfl := List.eq_nil_of_length_eq_zero count.symm
    exact ⟨rfl, rfl⟩
  | cons c rest ih =>
    rw [QuoteState.marks] at count
    have split (words : List Char) :
        String.ofList (c :: words) = String.singleton c ++ String.ofList words := by
      rw [String.singleton_eq_ofList, ← String.ofList_append]
      rfl
    by_cases mark : state = none ∧ c = '?'
    · obtain ⟨rfl, rfl⟩ := mark
      cases args with
      | nil => simp at count
      | cons value args =>
        have fewer : QuoteState.marks none rest = args.length := by
          have next : QuoteState.next none '?' = none := rfl
          simp only [and_self, if_true, next, List.length_cons] at count
          omega
        obtain ⟨fragment, scanned⟩ := ih fewer
        rw [ofRaw, if_pos ⟨rfl, rfl⟩, fragment_argument, fragment, split]
        exact ⟨rfl, scanned⟩
    · rw [if_neg mark, Nat.zero_add] at count
      obtain ⟨fragment, scanned⟩ := ih count
      have plain : state.marks (String.singleton c).toList = 0 := by
        simp [QuoteState.marks, mark]
      have next : state.after (String.singleton c).toList = state.next c := by
        simp [QuoteState.after]
      rw [ofRaw.eq_def]
      simp only [if_neg mark]
      rw [fragment_text, fragment, split, scan, if_pos plain, next]
      exact ⟨rfl, scanned⟩

/-- A leaf that takes its arguments has them at its question marks. -/
theorem Leaf.layout_spec {leaf : Leaf} (takes : leaf.TakesArguments) :
    leaf.layout.fragment = ⟨leaf.fragment, leaf.args⟩ ∧ leaf.layout.IsClosed := by
  cases leaf with
  | raw sql args =>
    obtain ⟨balanced, count⟩ := takes
    have placed := Layout.ofRaw_spec count
    rw [balanced, String.ofList_toList] at placed
    exact placed
  | compare column comparison value =>
    refine ⟨by simp [layout, fragment, args, String.append_assoc], ?_⟩
    have symbol : IsPlainText comparison.symbol := by cases comparison <;> decide
    exact Layout.isClosed_text_cons
      ((((takes column rfl).append (by decide)).append symbol).append (by decide)) rfl
  | notInList column values =>
    cases values with
    | nil => exact ⟨by simp [layout, fragment, args], rfl⟩
    | cons value values =>
      refine ⟨by simp [layout, fragment, args, String.append_assoc], ?_⟩
      exact Layout.isClosed_text_cons ((takes column rfl).append (by decide)) rfl
  | likeLowered column pattern =>
    refine ⟨by simp [layout, fragment, args, String.append_assoc], ?_⟩
    have lower : IsPlainText "LOWER(" := by decide
    exact Layout.isClosed_text_cons ((lower.append (takes column rfl)).append (by decide)) rfl
  | _ column =>
    refine ⟨by simp [layout, fragment, args, String.append_assoc], ?_⟩
    exact Layout.isClosed_text_cons ((takes column rfl).append (by decide)) rfl

namespace Layout

def orBlank (layout : Layout) : Layout :=
  if layout.fragment.sql = "" ∨ layout.fragment.sql = "()" then [] else layout

/-- Tie two layouts; a blank one takes the connective with it. -/
def tie (connective : Connective) (left right : Layout) : Layout :=
  if right.fragment.sql = "" then left
  else if left.fragment.sql = "" then right
  else left ++ .text (" " ++ connective.name ++ " ") :: right

theorem fragment_orBlank (layout : Layout) : layout.orBlank.fragment = layout.fragment.orBlank := by
  unfold orBlank Fragment.orBlank
  split <;> rfl

theorem fragment_tie (connective : Connective) (left right : Layout) :
    (tie connective left right).fragment =
      Fragment.tie connective left.fragment right.fragment := by
  simp only [tie, Fragment.tie, Fragment.isBlank, beq_iff_eq]
  split
  · rfl
  · split
    · rfl
    · simp [String.append_assoc]

theorem IsClosed.orBlank {layout : Layout} (closed : layout.IsClosed) :
    layout.orBlank.IsClosed := by
  unfold Layout.orBlank
  split
  · rfl
  · exact closed

theorem IsClosed.tie {connective : Connective} {left right : Layout} (leftClosed : left.IsClosed)
    (rightClosed : right.IsClosed) : (tie connective left right).IsClosed := by
  have between : IsPlainText (" " ++ connective.name ++ " ") := by cases connective <;> decide
  unfold Layout.tie
  split
  · exact leftClosed
  · split
    · exact rightClosed
    · exact leftClosed.append (isClosed_text_cons between rightClosed)

/-- A layout without text has no arguments, and neither has a pair of parentheses around nothing. -/
theorem args_of_blank {layout : Layout}
    (blank : layout.fragment.sql = "" ∨ layout.fragment.sql = "()") :
    layout.fragment.args = [] := by
  by_contra some_
  have mark := mark_mem_of_args some_
  rcases blank with blank | blank <;> simp [blank] at mark

theorem args_orBlank (layout : Layout) : layout.orBlank.fragment.args = layout.fragment.args := by
  unfold orBlank
  split
  · next blank => rw [args_of_blank blank]; rfl
  · rfl

theorem args_tie (connective : Connective) (left right : Layout) :
    (tie connective left right).fragment.args = left.fragment.args ++ right.fragment.args := by
  unfold tie
  split
  · next blank => rw [args_of_blank (.inl blank), List.append_nil]
  · split
    · next blank => rw [args_of_blank (.inl blank), List.nil_append]
    · simp

end Layout

namespace Condition

def operandLayout (operand : Condition) (layout : Layout) : Layout :=
  if operand.isJoin || operand.isRawLeaf then layout.inParentheses.orBlank else layout.orBlank

def layout : Condition → Layout
  | empty => []
  | leaf l => l.layout.orBlank
  | group operand => operandLayout operand operand.layout
  | join chain connective operand =>
    Layout.tie connective chain.layout (operandLayout operand operand.layout)

theorem args_operandLayout (operand : Condition) (layout : Layout) :
    (operandLayout operand layout).fragment.args = layout.fragment.args := by
  unfold operandLayout
  split
  · rw [Layout.args_orBlank, Layout.fragment_inParentheses]
    rfl
  · exact Layout.args_orBlank layout

/-- A condition whose leaves take their arguments has them at its question marks, those of a leaf
together and the leaves from left to right. -/
theorem layout_spec {condition : Condition}
    (takes : ∀ leaf ∈ condition.leaves, leaf.TakesArguments) :
    condition.layout.fragment = condition.compile ∧ condition.layout.IsClosed ∧
      condition.layout.fragment.args = condition.leaves.flatMap Leaf.args := by
  have operandSpec {operand : Condition} (placed : operand.layout.fragment = operand.compile)
      (closed : operand.layout.IsClosed) :
      (operandLayout operand operand.layout).fragment = operandFragment operand operand.compile ∧
        (operandLayout operand operand.layout).IsClosed := by
    unfold operandLayout operandFragment
    split
    · rw [Layout.fragment_orBlank, Layout.fragment_inParentheses, placed]
      exact ⟨rfl, closed.inParentheses.orBlank⟩
    · rw [Layout.fragment_orBlank, placed]
      exact ⟨rfl, closed.orBlank⟩
  induction condition with
  | empty => exact ⟨rfl, rfl, rfl⟩
  | leaf l =>
    obtain ⟨placed, closed⟩ := Leaf.layout_spec (takes l (List.mem_singleton_self l))
    refine ⟨?_, closed.orBlank, ?_⟩
    · rw [layout, Layout.fragment_orBlank, placed, compile]
    · rw [layout, Layout.args_orBlank, placed, leaves, List.flatMap_singleton]
  | group operand ih =>
    obtain ⟨placed, closed, args⟩ := ih takes
    have inner := operandSpec placed closed
    exact ⟨inner.1, inner.2, (args_operandLayout operand operand.layout).trans args⟩
  | join chain connective operand ihChain ihOperand =>
    obtain ⟨left, leftClosed, leftArgs⟩ :=
      ihChain fun leaf member => takes leaf (List.mem_append_left _ member)
    obtain ⟨right, rightClosed, rightArgs⟩ :=
      ihOperand fun leaf member => takes leaf (List.mem_append_right _ member)
    have inner := operandSpec right rightClosed
    refine ⟨?_, leftClosed.tie inner.2, ?_⟩
    · rw [layout, Layout.fragment_tie, left, inner.1, compile]
    · rw [layout, Layout.args_tie, args_operandLayout, leftArgs, rightArgs, leaves,
        List.flatMap_append]

end Condition

namespace Layout

/-- A layout has another one inside, behind arguments. -/
def Has (layout : Layout) (args : List Value) (inner : Layout) : Prop :=
  ∃ before after : Layout, layout = before ++ inner ++ after ∧ before.IsClosed ∧
    before.fragment.args = args

namespace Has

variable {layout inner : Layout} {args : List Value} (has : layout.Has args inner)
  (spoken : ' ' ∈ inner.fragment.sql.toList)
include has

theorem cons (words : String) (plain : IsPlainText words) :
    Has (.text words :: layout) args inner := by
  obtain ⟨before, after, rfl, closed, given⟩ := has
  exact ⟨.text words :: before, after, rfl, isClosed_text_cons plain closed, given⟩

theorem append (rest : Layout) : Has (layout ++ rest) args inner := by
  obtain ⟨before, after, rfl, closed, given⟩ := has
  exact ⟨before, after ++ rest, List.append_assoc _ _ _, closed, given⟩

theorem prepend {first : Layout} (closed : first.IsClosed) :
    Has (first ++ layout) (first.fragment.args ++ args) inner := by
  obtain ⟨before, after, rfl, closed', rfl⟩ := has
  refine ⟨first ++ before, after, by simp only [List.append_assoc], closed.append closed', ?_⟩
  rw [fragment_append]

include spoken

/-- A layout with a blank inside is neither empty nor a pair of parentheses. -/
theorem ne_blank : ¬(layout.fragment.sql = "" ∨ layout.fragment.sql = "()") := by
  obtain ⟨before, after, rfl, _⟩ := has
  have inside : ' ' ∈ (before ++ inner ++ after).fragment.sql.toList := by
    simp [fragment_append, spoken]
  rintro (blank | blank) <;>
  · rw [blank] at inside
    exact absurd inside (by decide)

theorem orBlank : layout.orBlank.Has args inner := by
  unfold Layout.orBlank
  rw [if_neg (has.ne_blank spoken)]
  exact has

end Has

/-- What is rendered for a layout that has another one inside. The arguments in front are bound in
front, and have their question marks there if the dialect does not number them. -/
theorem Has.exists_render_eq {layout inner : Layout} {args : List Value}
    (has : layout.Has args inner) (closed : layout.IsClosed) (dialect : Dialect) :
    ∃ before after rest extra, layout.fragment.sql = before ++ inner.fragment.sql ++ after ∧
      (Fragment.render ⟨before, args⟩ dialect).args = scalars args ∧
      QuoteState.marks none (Fragment.render ⟨before, args⟩ dialect).sql.toList =
        (if dialect = .postgres then 0 else (scalars args).length) ∧
      layout.fragment.render dialect =
        ⟨(Fragment.render ⟨before, args⟩ dialect).sql ++
            inner.written dialect (scalars args).length ++ rest,
          scalars args ++ scalars inner.fragment.args ++ extra⟩ := by
  obtain ⟨before, after, rfl, front, rfl⟩ := has
  have args := (bindings_statement before dialect).1
  have marks := marks_statement front dialect
  rw [args] at marks
  refine ⟨before.fragment.sql, after.fragment.sql, after.written dialect
    (scalars (before ++ inner).fragment.args).length, scalars after.fragment.args, ?_, ?_, ?_, ?_⟩
  · simp only [fragment_append]
  · rw [render_eq front, args]
  · rw [render_eq front, marks]
  · have scalars_append (first second : List Value) :
        scalars (first ++ second) = scalars first ++ scalars second := by simp [scalars]
    rw [render_eq front, render_eq closed, statement_eq, statement_eq, written_append,
      written_append, Nat.zero_add, Nat.zero_add]
    simp only [fragment_append, scalars_append]

/-- What is rendered for a layout that has a comparison inside. -/
theorem Has.render {layout : Layout} {args : List Value} {words : String} {value : Value}
    (has : layout.Has args [.text words, .argument value]) (closed : layout.IsClosed)
    (dialect : Dialect) :
    ∃ before after rest, layout.fragment.sql = before ++ words ++ "?" ++ after ∧
      (layout.fragment.render dialect).sql = (Fragment.render ⟨before, args⟩ dialect).sql ++ words ++
        ", ".intercalate (dialect.slotsText (scalars args).length value.slots) ++ rest := by
  obtain ⟨before, after, rest, extra, sql, _, _, rendered⟩ := has.exists_render_eq closed dialect
  refine ⟨before, after, rest, ?_, ?_⟩
  · rw [sql]
    simp [String.append_assoc]
  · rw [rendered, written_text_cons, written_argument]
    simp only [String.append_assoc]

end Layout

namespace Condition

theorem has_operandLayout (operand : Condition) {layout inner : Layout} {args : List Value}
    (has : layout.Has args inner) (spoken : ' ' ∈ inner.fragment.sql.toList) :
    (operandLayout operand layout).Has args inner := by
  unfold operandLayout
  split
  · exact ((has.append [.text ")"]).cons "(" (by decide)).orBlank spoken
  · exact has.orBlank spoken

/-- A leaf has its layout in that of its condition, behind the arguments of the leaves in front. -/
theorem has_layout {condition : Condition}
    (takes : ∀ leaf ∈ condition.leaves, leaf.TakesArguments) {first rest : List Leaf} {leaf : Leaf}
    (listed : condition.leaves = first ++ leaf :: rest)
    (spoken : ' ' ∈ leaf.layout.fragment.sql.toList) :
    condition.layout.Has (first.flatMap Leaf.args) leaf.layout := by
  induction condition generalizing first rest with
  | empty => cases first <;> contradiction
  | leaf l =>
    obtain ⟨rfl, same⟩ : first = [] ∧ l = leaf := by
      cases first with
      | nil => exact ⟨rfl, (List.cons.inj listed).1⟩
      | cons _ tail => cases tail <;> cases (List.cons.inj listed).2
    subst same
    exact Layout.Has.orBlank ⟨[], [], by simp, rfl, rfl⟩ spoken
  | group operand ih => exact has_operandLayout operand (ih takes listed) spoken
  | join chain connective operand ihChain ihOperand =>
    have takesChain leaf (member : leaf ∈ chain.leaves) := takes leaf (List.mem_append_left _ member)
    have takesOperand leaf (member : leaf ∈ operand.leaves) :=
      takes leaf (List.mem_append_right _ member)
    have between : IsPlainText (" " ++ connective.name ++ " ") := by cases connective <;> decide
    obtain ⟨_, closed, args⟩ := layout_spec takesChain
    have place : (∃ later, first = chain.leaves ++ later ∧ operand.leaves = later ++ leaf :: rest) ∨
        ∃ later, chain.leaves = first ++ leaf :: later := by
      rcases List.append_eq_append_iff.1 listed with inside | ⟨later, front, behind⟩
      · exact .inl inside
      · cases later with
        | nil => exact .inl ⟨[], by rw [front, List.append_nil, List.append_nil], behind.symm⟩
        | cons _ later =>
          obtain ⟨rfl, _⟩ := List.cons.inj behind
          exact .inr ⟨later, front⟩
    rw [layout, Layout.tie]
    rcases place with ⟨later, rfl, behind⟩ | ⟨later, front⟩
    · have has := has_operandLayout operand (ihOperand takesOperand behind) spoken
      rw [if_neg fun blank => has.ne_blank spoken (.inl blank), List.flatMap_append, ← args]
      split
      · next blank => rwa [Layout.args_of_blank (.inl blank)]
      · exact (has.cons _ between).prepend closed
    · have has := ihChain takesChain front
      split
      · exact has
      · rw [if_neg fun blank => has.ne_blank spoken (.inl blank)]
        exact has.append _

end Condition

namespace Restriction

def layout : Restriction → Layout
  | holds condition => condition.layout
  | isNull column => [.text (column ++ " IS NULL")]

/-- Whether a restriction needs parentheses beside others. -/
def isComposite : Restriction → Bool
  | holds condition => condition.isComposite
  | isNull _ => false

def args : Restriction → List Value
  | holds condition => condition.leaves.flatMap Leaf.args
  | isNull _ => []

def TakesArguments : Restriction → Prop
  | holds condition => ∀ leaf ∈ condition.leaves, leaf.TakesArguments
  | isNull column => IsPlainText column

theorem layout_spec {restriction : Restriction} (takes : restriction.TakesArguments) :
    restriction.layout.IsClosed ∧ restriction.layout.fragment.args = restriction.args ∧
    restriction.clause? =
      if restriction.layout.fragment.sql = "" then none
      else some ⟨restriction.layout.fragment, restriction.isComposite⟩ := by
  cases restriction with
  | isNull column =>
    have spoken : column ++ " IS NULL" ≠ "" := by
      intro blank
      simpa using congrArg String.toList blank
    refine ⟨takes.append (by decide), rfl, ?_⟩
    simp [clause?, Clause.isNull, layout, isComposite, spoken]
  | holds condition =>
    obtain ⟨placed, closed, args⟩ := Condition.layout_spec takes
    refine ⟨closed, args, ?_⟩
    simp only [clause?, Clause.ofCondition?, layout, placed, Fragment.isBlank, beq_iff_eq]
    rfl

def spoken (restrictions : List Restriction) : List Restriction :=
  restrictions.filter fun restriction => restriction.layout.fragment.sql ≠ ""

def memberLayout (wrap : Bool) (restriction : Restriction) : Layout :=
  if wrap && restriction.isComposite then restriction.layout.inParentheses else restriction.layout

/-- The conjunction of restrictions, with the arguments of each in place. -/
def conjunctionLayout (members : List Restriction) : Layout :=
  .join " AND " (members.map (memberLayout (decide (1 < members.length))))

def predicateLayout? (restrictions : List Restriction) : Option Layout :=
  match spoken restrictions with
  | [] => none
  | members => some (conjunctionLayout members)

theorem filterMap_clause? {restrictions : List Restriction}
    (takes : ∀ restriction ∈ restrictions, restriction.TakesArguments) :
    restrictions.filterMap clause? = (spoken restrictions).map fun restriction =>
      ⟨restriction.layout.fragment, restriction.isComposite⟩ := by
  induction restrictions with
  | nil => rfl
  | cons restriction rest ih =>
    obtain ⟨here, later⟩ := List.forall_mem_cons.1 takes
    rw [List.filterMap_cons, (layout_spec here).2.2, ih later]
    by_cases blank : restriction.layout.fragment.sql = "" <;> simp [spoken, blank]

theorem args_spoken {restrictions : List Restriction}
    (takes : ∀ restriction ∈ restrictions, restriction.TakesArguments) :
    (spoken restrictions).flatMap (·.layout.fragment.args) = restrictions.flatMap args := by
  induction restrictions with
  | nil => rfl
  | cons restriction rest ih =>
    obtain ⟨here, later⟩ := List.forall_mem_cons.1 takes
    rw [List.flatMap_cons, ← ih later, ← (layout_spec here).2.1, spoken, List.filter_cons]
    by_cases blank : restriction.layout.fragment.sql = ""
    · simp [blank, spoken, Layout.args_of_blank (.inl blank)]
    · simp [blank, spoken]

theorem memberLayout_spec (wrap : Bool) {restriction : Restriction}
    (takes : restriction.TakesArguments) :
    (memberLayout wrap restriction).IsClosed ∧
    (memberLayout wrap restriction).fragment =
      ⟨Clause.sql ⟨restriction.layout.fragment, restriction.isComposite⟩ wrap,
        restriction.layout.fragment.args⟩ := by
  have closed := (layout_spec takes).1
  unfold memberLayout Clause.sql
  split
  · exact ⟨closed.inParentheses, Layout.fragment_inParentheses _⟩
  · exact ⟨closed, rfl⟩

theorem conjunctionLayout_spec {members : List Restriction}
    (takes : ∀ restriction ∈ members, restriction.TakesArguments) :
    (conjunctionLayout members).IsClosed ∧
    (conjunctionLayout members).fragment = Clause.conjunction (members.map fun restriction =>
      ⟨restriction.layout.fragment, restriction.isComposite⟩) ∧
    (conjunctionLayout members).fragment.args =
      members.flatMap (·.layout.fragment.args) := by
  have member wrap {restriction : Restriction} (listed : restriction ∈ members) :=
    memberLayout_spec wrap (takes restriction listed)
  have whole := Layout.fragment_join " AND "
    (members.map (memberLayout (decide (1 < members.length))))
  have args : members.flatMap (fun restriction =>
      (memberLayout (decide (1 < members.length)) restriction).fragment.args) =
      members.flatMap (·.layout.fragment.args) :=
    List.flatMap_congr fun restriction listed => by rw [(member _ listed).2]
  rw [List.map_map, List.flatMap_map, args] at whole
  refine ⟨Layout.IsClosed.join (by decide) ?_, ?_, by rw [conjunctionLayout, whole]⟩
  · simp only [List.forall_mem_map]
    exact fun restriction listed => (member _ listed).1
  · rw [conjunctionLayout, whole, Clause.conjunction, List.map_map, List.flatMap_map,
      List.length_map]
    congr 2
    exact List.map_congr_left fun restriction listed => congrArg Fragment.sql (member _ listed).2

theorem predicateLayout?_spec {restrictions : List Restriction}
    (takes : ∀ restriction ∈ restrictions, restriction.TakesArguments) :
    predicate? restrictions = (predicateLayout? restrictions).map Layout.fragment ∧
    (∀ layout ∈ predicateLayout? restrictions, layout.IsClosed) ∧
    ((predicateLayout? restrictions).map (·.fragment.args)).getD [] =
      restrictions.flatMap args := by
  have listed : ∀ restriction ∈ spoken restrictions, restriction.TakesArguments :=
    fun restriction member => takes restriction (List.mem_filter.1 member).1
  rw [predicate?, predicateLayout?, filterMap_clause? takes, ← args_spoken takes]
  cases members : spoken restrictions with
  | nil => exact ⟨rfl, by simp, rfl⟩
  | cons first rest =>
    obtain ⟨closed, whole, args⟩ := conjunctionLayout_spec (members ▸ listed)
    refine ⟨congrArg some whole.symm, ?_, args⟩
    rintro _ ⟨⟩
    exact closed

end Restriction

end DataAccess
