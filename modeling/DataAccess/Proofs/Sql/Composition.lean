import DataAccess.Proofs.Sql.Reading

/-! How texts put together are read. Behind a blank or inside parentheses a text is read as it is
read alone, as long as its own quotes and parentheses are balanced. -/
namespace DataAccess.Sql

/-- Texts left open on top of others: the last of the upper ones and the first of the lower ones are
one text. -/
def joinTexts : List (List Item) → List (List Item) → List (List Item)
  | [], lower => lower
  | [last], text :: lower => (last ++ text) :: lower
  | [last], [] => [last]
  | text :: upper, lower => text :: joinTexts upper lower

theorem place?_of_not_parenthesis {token : Token} (closing : token ≠ .mark ')')
    (opening : token ≠ .mark '(') (text : List Item) (texts : List (List Item)) :
    place? token (text :: texts) = some ((.single token :: text) :: texts) := by
  unfold place?
  split <;> simp_all

theorem place?_joinTexts {token : Token} {last : List Item} {upper texts : List (List Item)}
    (text : List Item) (lower : List (List Item))
    (placed : place? token (last :: upper) = some texts) :
    place? token (joinTexts (last :: upper) (text :: lower)) =
      some (joinTexts texts (text :: lower)) ∧ texts ≠ [] := by
  unfold place? at placed
  split at placed
  case h_1 => cases upper <;> cases placed <;> exact ⟨rfl, List.cons_ne_nil _ _⟩
  case h_2 inside outer texts same =>
    obtain ⟨rfl, rfl⟩ := List.cons.inj same
    cases placed
    cases texts <;> exact ⟨rfl, List.cons_ne_nil _ _⟩
  case h_3 => contradiction
  case h_4 closing _ opening same =>
    obtain ⟨rfl, rfl⟩ := List.cons.inj same
    cases placed
    refine ⟨?_, List.cons_ne_nil _ _⟩
    cases upper <;> exact place?_of_not_parenthesis closing opening _ _
  case h_5 => contradiction

theorem nest?_append {first second : List Token} {upper lower : List (List Item)} {text : List Item}
    (left : nest? first = some upper) (right : nest? second = some (text :: lower)) :
    nest? (first ++ second) = some (joinTexts upper (text :: lower)) ∧ upper ≠ [] := by
  induction first generalizing upper with
  | nil =>
    cases left
    exact ⟨right, List.cons_ne_nil _ _⟩
  | cons token rest ih =>
    obtain ⟨texts, nested, placed⟩ := Option.bind_eq_some_iff.1 left
    obtain ⟨joined, open_⟩ := ih nested
    obtain ⟨last, upper, rfl⟩ := List.exists_cons_of_ne_nil open_
    have next := place?_joinTexts text lower placed
    exact ⟨by rw [List.cons_append, nest?, joined, Option.bind_some, next.1], next.2⟩

theorem items?_eq_some {text : String} {items : List Item} :
    items? text = some items ↔
      ∃ tokens, tokens? text.toList = some tokens ∧ nest? tokens = some [items] := by
  unfold items?
  constructor
  · intro read
    split at read
    · next _ nested =>
      cases read
      exact Option.bind_eq_some_iff.1 nested
    · contradiction
  · rintro ⟨tokens, split, nested⟩
    simp [split, nested]

theorem items?_blank {first second : String} {before behind : List Item}
    (left : items? first = some before) (right : items? second = some behind) :
    items? (first ++ " " ++ second) = some (before ++ behind) := by
  obtain ⟨beforeTokens, leftTokens, leftNested⟩ := items?_eq_some.1 left
  obtain ⟨behindTokens, rightTokens, rightNested⟩ := items?_eq_some.1 right
  refine items?_eq_some.2
    ⟨beforeTokens ++ behindTokens, ?_, (nest?_append leftNested rightNested).1⟩
  simpa using tokens?_blank leftTokens rightTokens

theorem items?_parentheses {inside : String} {before within : List Item} (name : String)
    (left : items? name = some before) (right : items? inside = some within) :
    items? (name ++ "(" ++ inside ++ ")") =
      some (before ++ [.group (within.flatMap Item.tokens) (formulaOf? within)]) := by
  obtain ⟨beforeTokens, leftTokens, leftNested⟩ := items?_eq_some.1 left
  obtain ⟨withinTokens, rightTokens, rightNested⟩ := items?_eq_some.1 right
  have closed : nest? (withinTokens ++ [.mark ')']) = some [within, []] := by
    have ending : nest? [.mark ')'] = some [[], []] := rfl
    simpa [joinTexts] using (nest?_append rightNested ending).1
  have opened : nest? (.mark '(' :: (withinTokens ++ [.mark ')'])) =
      some [[.group (within.flatMap Item.tokens) (formulaOf? within)]] := by
    rw [nest?, closed]
    rfl
  refine items?_eq_some.2 ⟨_, ?_, (nest?_append leftNested opened).1⟩
  simpa using tokens?_parentheses leftTokens rightTokens

/-- The tokens of texts left open, with the parentheses that close them. -/
def openTokens : List (List Item) → List Token
  | [] => []
  | [text] => text.flatMap Item.tokens
  | text :: texts => text.flatMap Item.tokens ++ .mark ')' :: openTokens texts

theorem openTokens_place? {token : Token} {text : List Item} {texts placed : List (List Item)}
    (done : place? token (text :: texts) = some placed) :
    openTokens placed = token :: openTokens (text :: texts) ∧ placed ≠ [] := by
  unfold place? at done
  split at done
  case h_1 =>
    cases done
    exact ⟨rfl, List.cons_ne_nil _ _⟩
  case h_2 inside outer texts same =>
    obtain ⟨rfl, rfl⟩ := List.cons.inj same
    cases done
    cases texts <;> simp [openTokens, Item.tokens]
  case h_3 => contradiction
  case h_4 same =>
    obtain ⟨rfl, rfl⟩ := List.cons.inj same
    cases done
    cases texts <;> simp [openTokens, Item.tokens]
  case h_5 => contradiction

theorem openTokens_nest? {tokens : List Token} {texts : List (List Item)}
    (nested : nest? tokens = some texts) : openTokens texts = tokens ∧ texts ≠ [] := by
  induction tokens generalizing texts with
  | nil =>
    cases nested
    exact ⟨rfl, List.cons_ne_nil _ _⟩
  | cons token rest ih =>
    obtain ⟨inner, nested, placed⟩ := Option.bind_eq_some_iff.1 nested
    obtain ⟨same, open_⟩ := ih nested
    obtain ⟨text, texts, rfl⟩ := List.exists_cons_of_ne_nil open_
    obtain ⟨placedSame, placedOpen⟩ := openTokens_place? placed
    exact ⟨by rw [placedSame, same], placedOpen⟩

/-- Grouping loses no token. -/
theorem tokens?_of_items? {text : String} {items : List Item} (read : items? text = some items) :
    tokens? text.toList = some (items.flatMap Item.tokens) := by
  obtain ⟨tokens, split, nested⟩ := items?_eq_some.1 read
  rw [split, ← (openTokens_nest? nested).1]
  rfl

theorem operands?_ne_nil {connective : Connective} {betweens : Nat} {items : List Item}
    {operands : List (Connective × List Item)}
    (cut : operands? connective betweens items = some operands) : operands ≠ [] := by
  induction items generalizing connective betweens operands with
  | nil =>
    simp only [operands?, Option.ite_none_right_eq_some] at cut
    exact Option.some.inj cut.2 ▸ List.cons_ne_nil _ _
  | cons item rest ih =>
    have push {connective : Connective} {betweens : Nat}
        (cut : (operands? connective betweens rest).map (pushItem item) = some operands) :
        operands ≠ [] := by
      obtain ⟨inner, cutRest, rfl⟩ := Option.map_eq_some_iff.1 cut
      obtain ⟨head, tail, rfl⟩ := List.exists_cons_of_ne_nil (ih cutRest)
      exact List.cons_ne_nil _ _
    rw [operands?] at cut
    split at cut
    · exact push cut
    · split at cut
      · obtain ⟨inner, _, rfl⟩ := Option.map_eq_some_iff.1 cut
        exact List.cons_ne_nil _ _
      · split at cut
        · exact push cut
        · contradiction

theorem pushItem_append {item : Item} {left : List (Connective × List Item)} (some_ : left ≠ [])
    (right : List (Connective × List Item)) :
    pushItem item (left ++ right) = pushItem item left ++ right := by
  obtain ⟨head, tail, rfl⟩ := List.exists_cons_of_ne_nil some_
  rfl

/-- A connective outside parentheses separates the operands before it from those behind it. -/
theorem operands?_append {connective next : Connective} {betweens : Nat} {item : Item}
    {first second : List Item} {left right : List (Connective × List Item)}
    (ties : item.connective? = some next) (before : operands? connective betweens first = some left)
    (behind : operands? next 0 second = some right) :
    operands? connective betweens (first ++ item :: second) = some (left ++ right) := by
  induction first generalizing connective betweens left with
  | nil =>
    simp only [operands?, Option.ite_none_right_eq_some] at before
    obtain ⟨rfl, cut⟩ := before
    cases cut
    simp [operands?, ties, behind]
  | cons other rest ih =>
    have push {connective : Connective} {betweens : Nat}
        (cut : (operands? connective betweens rest).map (pushItem other) = some left) :
        (operands? connective betweens (rest ++ item :: second)).map (pushItem other) =
          some (left ++ right) := by
      obtain ⟨inner, cutRest, rfl⟩ := Option.map_eq_some_iff.1 cut
      rw [ih cutRest, Option.map_some, pushItem_append (operands?_ne_nil cutRest)]
    rw [operands?] at before
    rw [List.cons_append, operands?]
    split at before
    · exact push before
    · split at before
      · obtain ⟨inner, cutRest, rfl⟩ := Option.map_eq_some_iff.1 before
        rw [if_pos ‹_›, ih cutRest, Option.map_some, List.cons_append]
      · split at before
        · rw [if_neg ‹_›, if_pos ‹_›]
          exact push before
        · contradiction

def retie {α : Type} (connective : Connective) :
    List (Connective × α) → List (Connective × α)
  | [] => []
  | (_, first) :: rest => (connective, first) :: rest

theorem operands?_retie (connective next : Connective) (betweens : Nat) (items : List Item) :
    operands? next betweens items = (operands? connective betweens items).map (retie next) := by
  induction items generalizing connective next betweens with
  | nil =>
    simp only [operands?]
    split <;> rfl
  | cons item rest ih =>
    have push (betweens : Nat) : (operands? next betweens rest).map (pushItem item) =
        ((operands? connective betweens rest).map (pushItem item)).map (retie next) := by
      rw [ih connective next, Option.map_map, Option.map_map]
      congr 1
      funext operands
      cases operands <;> rfl
    simp only [operands?]
    split
    · exact push _
    · split
      · simp only [Option.map_map]
        rfl
      · split
        · exact push _
        · rfl

theorem unitsOf?_retie (connective next : Connective) (items : List Item) :
    unitsOf? next items = (unitsOf? connective items).map (retie next) := by
  unfold unitsOf?
  rw [operands?_retie connective next]
  cases operands? connective 0 items with
  | none => rfl
  | some operands =>
    cases operands with
    | nil => rfl
    | cons first rest =>
      simp only [Option.map_some, Option.bind_some, retie, List.mapM_cons]
      cases unit? first.2 <;>
        cases rest.mapM (fun operand => (unit? operand.2).map (operand.1, ·)) <;> rfl

theorem units?_retie (connective next : Connective) (text : String) :
    units? next text = (units? connective text).map (retie next) := by
  unfold units?
  split
  · rfl
  · rw [Option.map_bind]
    congr 1
    funext items
    exact unitsOf?_retie connective next items

theorem units?_head {connective head : Connective} {text : String} {formula : Formula Atom}
    {rest : List (Connective × Formula Atom)}
    (read : units? connective text = some ((head, formula) :: rest)) : head = connective := by
  have same := units?_retie connective connective text
  rw [read] at same
  simp only [Option.map_some, retie, Option.some.injEq, List.cons.injEq, Prod.mk.injEq] at same
  exact same.1.1

theorem unitsOf?_ne_nil {connective : Connective} {items : List Item}
    {units : List (Connective × Formula Atom)} (read : unitsOf? connective items = some units) :
    units ≠ [] := by
  obtain ⟨operands, cut, mapped⟩ := Option.bind_eq_some_iff.1 read
  obtain ⟨first, rest, rfl⟩ := List.exists_cons_of_ne_nil (operands?_ne_nil cut)
  rw [List.mapM_cons] at mapped
  obtain ⟨unit, _, mapped⟩ := Option.bind_eq_some_iff.1 mapped
  obtain ⟨others, _, mapped⟩ := Option.bind_eq_some_iff.1 mapped
  exact Option.some.inj mapped ▸ List.cons_ne_nil _ _

theorem units?_eq_nil {connective : Connective} {text : String} :
    units? connective text = some [] ↔ text = "" := by
  unfold units?
  constructor
  · intro read
    split at read
    · assumption
    · obtain ⟨items, _, units⟩ := Option.bind_eq_some_iff.1 read
      exact absurd rfl (unitsOf?_ne_nil units)
  · intro blank
    rw [if_pos blank]

theorem items?_of_units? {connective : Connective} {text : String}
    {units : List (Connective × Formula Atom)} (read : units? connective text = some units)
    (nonempty : units ≠ []) :
    ∃ items, items? text = some items ∧ unitsOf? connective items = some units := by
  unfold units? at read
  split at read
  · exact absurd (Option.some.inj read).symm nonempty
  · exact Option.bind_eq_some_iff.1 read

theorem unitsOf?_append {connective next : Connective} {item : Item} {first second : List Item}
    {left right : List (Connective × Formula Atom)} (ties : item.connective? = some next)
    (before : unitsOf? connective first = some left) (behind : unitsOf? next second = some right) :
    unitsOf? connective (first ++ item :: second) = some (left ++ right) := by
  obtain ⟨operands, cut, mapped⟩ := Option.bind_eq_some_iff.1 before
  obtain ⟨operands', cut', mapped'⟩ := Option.bind_eq_some_iff.1 behind
  rw [unitsOf?, operands?_append ties cut cut', Option.bind_some, List.mapM_append, mapped, mapped']
  rfl

/-- A connective between two texts ties the units of one to those of the other. -/
theorem units?_tie {connective next : Connective} {first second : String}
    {left right : List (Connective × Formula Atom)}
    (before : units? connective first = some left) (behind : units? next second = some right)
    (leftUnits : left ≠ []) (rightUnits : right ≠ []) :
    units? connective (first ++ " " ++ next.name ++ " " ++ second) = some (left ++ right) := by
  obtain ⟨leftItems, leftRead, leftCut⟩ := items?_of_units? before leftUnits
  obtain ⟨rightItems, rightRead, rightCut⟩ := items?_of_units? behind rightUnits
  have tie : ∃ item, items? next.name = some [item] ∧ item.connective? = some next := by
    cases next <;> exact ⟨_, rfl, rfl⟩
  obtain ⟨item, tieRead, ties⟩ := tie
  have together := items?_blank (items?_blank leftRead tieRead) rightRead
  rw [units?, if_neg, together, Option.bind_some, List.append_assoc]
  · exact unitsOf?_append ties leftCut rightCut
  · intro blank
    simpa using congrArg String.toList blank

example : parse? "a OR b BETWEEN ? AND ? AND c" = some (.or (.atom [.word ['a']])
    (.and (.atom [.word ['b'], .word "BETWEEN".toList, .mark '?', .word "AND".toList, .mark '?'])
      (.atom [.word ['c']]))) := rfl

theorem units?_parentheses (connective : Connective) {text : String}
    {units : List (Connective × Formula Atom)} {formula : Formula Atom}
    (read : units? .and text = some units) (whole : Formula.ofChain? units = some formula) :
    units? connective ("(" ++ text ++ ")") = some [(connective, formula)] := by
  have nonempty : units ≠ [] := by
    rintro rfl
    contradiction
  obtain ⟨items, within, cut⟩ := items?_of_units? read nonempty
  have enclosed := items?_parentheses "" rfl within
  rw [String.empty_append] at enclosed
  have inner : formulaOf? items = some formula := by rw [formulaOf?, cut, Option.bind_some, whole]
  rw [units?, if_neg, enclosed, inner]
  · rfl
  · intro blank
    simpa using congrArg String.toList blank

theorem operands?_of_plain {connective : Connective} {betweens : Nat} {first second : List Item}
    {operand : List Item} {rest : List (Connective × List Item)}
    (plain : ∀ item ∈ first, item.isPlain)
    (cut : operands? connective betweens second = some ((connective, operand) :: rest)) :
    operands? connective betweens (first ++ second) =
      some ((connective, first ++ operand) :: rest) := by
  induction first with
  | nil => exact cut
  | cons item items ih =>
    have head := plain item List.mem_cons_self
    simp only [Item.isPlain, Bool.and_eq_true, Option.isNone_iff_eq_none, Bool.not_eq_true'] at head
    rw [List.cons_append, operands?, head.1]
    simp only [head.2, Bool.false_eq_true, if_false]
    rw [ih fun item member => plain item (List.mem_cons_of_mem _ member)]
    rfl

/-- A text of two or more items without a connective of its own is an atom. -/
theorem unitsOf?_atom {connective : Connective} {first second : List Item}
    (plain : ∀ item ∈ first, item.isPlain) (left : first ≠ []) (right : second ≠ [])
    (cut : operands? connective 0 second = some [(connective, second)]) :
    unitsOf? connective (first ++ second) =
      some [(connective, .atom ((first ++ second).flatMap Item.tokens))] := by
  obtain ⟨item, items, rfl⟩ := List.exists_cons_of_ne_nil left
  obtain ⟨next, more, rfl⟩ := List.exists_cons_of_ne_nil right
  have unit : unit? (item :: items ++ next :: more) =
      some (.atom ((item :: items ++ next :: more).flatMap Item.tokens)) := by
    cases item <;> cases items <;> rfl
  rw [unitsOf?, operands?_of_plain plain cut, Option.bind_some, List.mapM_cons, unit]
  rfl

end DataAccess.Sql
