import DataAccess.Sql.Query

/-! Layouts of statements. A layout says which argument each question mark of a statement stands
for. Rendering a statement that has a layout writes every argument in its own place, and what it
binds is numbered as it is written. -/
namespace DataAccess

namespace QuoteState

def after (state : QuoteState) (text : List Char) : QuoteState := text.foldl next state

/-- The question marks of a text that are outside quotes. -/
def marks (state : QuoteState) : List Char → Nat
  | [] => 0
  | c :: rest => (if state = none ∧ c = '?' then 1 else 0) + marks (state.next c) rest

theorem after_append (state : QuoteState) (first second : List Char) :
    state.after (first ++ second) = (state.after first).after second :=
  List.foldl_append

theorem marks_append (state : QuoteState) (first second : List Char) :
    state.marks (first ++ second) = state.marks first + (state.after first).marks second := by
  induction first generalizing state with
  | nil => simp [marks, after]
  | cons c rest ih =>
    rw [List.cons_append, marks, marks, ih, Nat.add_assoc]
    rfl

end QuoteState

/-- A piece of a statement: text, or the place of an argument. -/
inductive Piece where
  | text (words : String)
  | argument (value : Value)

namespace Piece

def sql : Piece → String
  | text words => words
  | argument _ => "?"

def value? : Piece → Option Value
  | text _ => none
  | argument value => some value

end Piece

abbrev Layout := List Piece

namespace Layout

def fragment (layout : Layout) : Fragment :=
  ⟨String.join (layout.map Piece.sql), layout.filterMap Piece.value?⟩

/-- The quote state behind a layout. It has none if text has a question mark outside quotes, or an
argument is inside them. -/
def scan (state : QuoteState) : Layout → Option QuoteState
  | [] => some state
  | .text words :: rest =>
    if state.marks words.toList = 0 then scan (state.after words.toList) rest else none
  | .argument _ :: rest => if state = none then scan none rest else none

/-- The quotes of a layout are balanced, and its question marks are its arguments. -/
def IsClosed (layout : Layout) : Prop := layout.scan none = some none

instance (layout : Layout) : Decidable layout.IsClosed :=
  inferInstanceAs (Decidable (layout.scan none = some none))

@[simp]
theorem fragment_nil : fragment [] = ⟨"", []⟩ := rfl

@[simp]
theorem fragment_text (words : String) (rest : Layout) :
    fragment (.text words :: rest) = ⟨words ++ (fragment rest).sql, (fragment rest).args⟩ := by
  simp only [fragment, List.map_cons, String.join_cons, Piece.sql]
  rfl

@[simp]
theorem fragment_argument (value : Value) (rest : Layout) :
    fragment (.argument value :: rest) =
      ⟨"?" ++ (fragment rest).sql, value :: (fragment rest).args⟩ := by
  simp only [fragment, List.map_cons, String.join_cons, Piece.sql]
  rfl

@[simp]
theorem fragment_append (first second : Layout) :
    (first ++ second).fragment =
      ⟨first.fragment.sql ++ second.fragment.sql, first.fragment.args ++ second.fragment.args⟩ := by
  simp [fragment, String.join_append]

theorem scan_append (state : QuoteState) (first second : Layout) :
    (first ++ second).scan state = (first.scan state).bind fun state => second.scan state := by
  induction first generalizing state with
  | nil => rfl
  | cons piece rest ih =>
    cases piece with
    | text words =>
      simp only [List.cons_append, scan]
      split
      · exact ih _
      · rfl
    | argument value =>
      simp only [List.cons_append, scan]
      split
      · exact ih _
      · rfl

theorem IsClosed.append {first second : Layout} (left : first.IsClosed) (right : second.IsClosed) :
    (first ++ second).IsClosed := by
  rw [IsClosed, scan_append, left]
  exact right

def join (separator : String) (layouts : List Layout) : Layout :=
  [.text separator].intercalate layouts

def inParentheses (layout : Layout) : Layout := .text "(" :: layout ++ [.text ")"]

theorem fragment_join (separator : String) (layouts : List Layout) :
    (join separator layouts).fragment =
      ⟨separator.intercalate (layouts.map (·.fragment.sql)),
        layouts.flatMap (·.fragment.args)⟩ := by
  induction layouts with
  | nil => rfl
  | cons first rest ih =>
    cases rest with
    | nil => simp [join, fragment, String.intercalate_singleton]
    | cons second rest =>
      rw [join, List.intercalate_cons_cons, ← join, fragment_append, fragment_append, ih]
      simp [String.intercalate_cons_cons]

theorem fragment_inParentheses (layout : Layout) :
    layout.inParentheses.fragment = layout.fragment.inParentheses := by
  simp [inParentheses, Fragment.inParentheses, String.append_assoc]

theorem mark_mem_of_args {layout : Layout} (some_ : layout.fragment.args ≠ []) :
    '?' ∈ layout.fragment.sql.toList := by
  induction layout with
  | nil => contradiction
  | cons piece rest ih =>
    cases piece with
    | text words =>
      rw [fragment_text] at some_ ⊢
      rw [String.toList_append]
      exact List.mem_append_right _ (ih some_)
    | argument value =>
      rw [fragment_argument, String.toList_append]
      exact List.mem_append_left _ (List.mem_singleton_self _)

end Layout

theorem isDigit_of_mem_toString {n : Nat} {c : Char} (member : c ∈ (toString n).toList) :
    c.isDigit := by
  rw [Nat.toString_eq_repr, Nat.toList_repr] at member
  exact Nat.isDigit_of_mem_toDigits (by decide) (by decide) member

/-- Text whose quotes are balanced, without a question mark outside them. -/
def IsPlainText (text : String) : Prop := Layout.IsClosed [.text text]

instance (text : String) : Decidable (IsPlainText text) :=
  inferInstanceAs (Decidable (Layout.IsClosed [.text text]))

namespace IsPlainText

theorem iff_marks {text : String} :
    IsPlainText text ↔
      QuoteState.marks none text.toList = 0 ∧ QuoteState.after none text.toList = none := by
  simp [IsPlainText, Layout.IsClosed, Layout.scan]

theorem empty : IsPlainText "" := by decide

theorem append {first second : String} (left : IsPlainText first) (right : IsPlainText second) :
    IsPlainText (first ++ second) := by
  rw [iff_marks] at left right ⊢
  rw [String.toList_append, QuoteState.marks_append, QuoteState.after_append, left.1, left.2]
  simpa using right

theorem join {texts : List String} (plain : ∀ text ∈ texts, IsPlainText text) :
    IsPlainText (String.join texts) := by
  induction texts with
  | nil => exact empty
  | cons text rest ih =>
    obtain ⟨first, later⟩ := List.forall_mem_cons.1 plain
    exact String.join_cons ▸ first.append (ih later)

theorem intercalate {separator : String} {texts : List String} (between : IsPlainText separator)
    (plain : ∀ text ∈ texts, IsPlainText text) : IsPlainText (separator.intercalate texts) := by
  induction texts with
  | nil => exact String.intercalate_nil ▸ empty
  | cons text rest ih =>
    obtain ⟨first, later⟩ := List.forall_mem_cons.1 plain
    cases rest with
    | nil => exact String.intercalate_singleton ▸ first
    | cons second rest =>
      exact String.intercalate_cons_cons ▸ (first.append between).append (ih later)

theorem of_chars {text : String} (plain : ∀ c ∈ text.toList, isQuote c = false ∧ c ≠ '?') :
    IsPlainText text := by
  rw [iff_marks]
  generalize text.toList = chars at plain
  induction chars with
  | nil => exact ⟨rfl, rfl⟩
  | cons c rest ih =>
    obtain ⟨⟨quote, mark⟩, later⟩ := List.forall_mem_cons.1 plain
    have outside : QuoteState.next none c = none := by simp [QuoteState.next, quote]
    rw [QuoteState.marks, QuoteState.after, List.foldl_cons, outside]
    exact ⟨by simpa [mark] using (ih later).1, (ih later).2⟩

theorem of_number (n : Nat) : IsPlainText (toString n) := by
  refine of_chars fun c member => ?_
  have digit := isDigit_of_mem_toString member
  refine ⟨Bool.eq_false_iff.2 fun quote => ?_, ?_⟩
  · simp only [isQuote, Bool.or_eq_true, beq_iff_eq] at quote
    rcases quote with (rfl | rfl) | rfl <;> contradiction
  · rintro rfl
    contradiction

end IsPlainText

namespace Layout

theorem isClosed_text_cons {words : String} {rest : Layout} (plain : IsPlainText words)
    (closed : rest.IsClosed) : IsClosed (.text words :: rest) :=
  IsClosed.append plain closed

theorem IsClosed.inParentheses {layout : Layout} (closed : layout.IsClosed) :
    layout.inParentheses.IsClosed :=
  isClosed_text_cons (by decide) (closed.append (by decide))

theorem IsClosed.join {separator : String} {layouts : List Layout}
    (between : IsPlainText separator) (closed : ∀ layout ∈ layouts, layout.IsClosed) :
    (join separator layouts).IsClosed := by
  induction layouts with
  | nil => rfl
  | cons first rest ih =>
    obtain ⟨here, later⟩ := List.forall_mem_cons.1 closed
    cases rest with
    | nil => simpa [Layout.join] using here
    | cons second rest =>
      rw [Layout.join, List.intercalate_cons_cons, ← Layout.join]
      exact (here.append between).append (ih later)

end Layout

/-- What is written for a piece: text, a null, or the placeholder of a bound argument. -/
inductive Output where
  | text (words : String)
  | null
  | bound (position : Nat) (value : Value)

namespace Output

def sql (dialect : Dialect) : Output → String
  | text words => words
  | null => "NULL"
  | bound position _ => dialect.placeholder position

/-- The bound argument and the number of its placeholder. -/
def binding? : Output → Option (Nat × Value)
  | bound position value => some (position, value)
  | _ => none

/-- What is written for slots when `bound` arguments stand before them. -/
def ofSlots (before : Nat) : List (Option Value) → List Output
  | [] => []
  | none :: rest => null :: ofSlots before rest
  | some value :: rest => bound (before + 1) value :: ofSlots (before + 1) rest

theorem slotsText_eq (dialect : Dialect) (before : Nat) (slots : List (Option Value)) :
    dialect.slotsText before slots = (ofSlots before slots).map (sql dialect) := by
  induction slots generalizing before with
  | nil => rfl
  | cons slot rest ih =>
    cases slot <;> simp only [Dialect.slotsText, ofSlots, List.map_cons, sql, ih]

theorem join_intersperse (dialect : Dialect) (separator : String) (outputs : List Output) :
    String.join ((outputs.intersperse (text separator)).map (sql dialect)) =
      separator.intercalate (outputs.map (sql dialect)) := by
  induction outputs with
  | nil => rfl
  | cons first rest ih =>
    cases rest with
    | nil => simp [String.join_cons, String.intercalate_singleton]
    | cons second rest =>
      simp only [List.intersperse_cons_cons, List.map_cons, String.join_cons, sql,
        String.intercalate_cons_cons, String.append_assoc] at ih ⊢
      rw [ih]

theorem bindings_ofSlots (before : Nat) (slots : List (Option Value)) :
    ((ofSlots before slots).intersperse (text ", ")).filterMap binding? =
      ((slots.filterMap id).zipIdx (before + 1)).map Prod.swap := by
  have plain : ((ofSlots before slots).intersperse (text ", ")).filterMap binding? =
      (ofSlots before slots).filterMap binding? := by
    generalize ofSlots before slots = outputs
    induction outputs with
    | nil => rfl
    | cons first rest ih =>
      cases rest with
      | nil => rfl
      | cons second rest =>
        rw [List.intersperse_cons_cons, List.filterMap_cons, List.filterMap_cons_none rfl, ih,
          ← List.filterMap_cons]
  rw [plain]
  clear plain
  induction slots generalizing before with
  | nil => rfl
  | cons slot rest ih =>
    cases slot with
    | none => exact ih before
    | some value => exact congrArg (List.cons (before + 1, value)) (ih (before + 1))

end Output

/-- The scalars that arguments bind, in order. -/
def scalars (args : List Value) : List Value := (args.flatMap Value.slots).filterMap id

namespace Layout

/-- What is written for a layout when `before` arguments stand before it. -/
def outputs (before : Nat) : Layout → List Output
  | [] => []
  | .text words :: rest => .text words :: outputs before rest
  | .argument value :: rest =>
    (Output.ofSlots before value.slots).intersperse (.text ", ") ++
      outputs (before + (scalars [value]).length) rest

theorem outputs_append (before : Nat) (first second : Layout) :
    (first ++ second).outputs before =
      first.outputs before ++ second.outputs (before + (scalars first.fragment.args).length) := by
  induction first generalizing before with
  | nil => rfl
  | cons piece rest ih =>
    cases piece with
    | text words => exact congrArg (List.cons (.text words)) (ih before)
    | argument value =>
      have count : (scalars (fragment (.argument value :: rest)).args).length =
          (scalars [value]).length + (scalars (fragment rest).args).length := by
        simp [fragment, scalars, Piece.value?]
      rw [List.cons_append, outputs, outputs, ih, count, List.append_assoc, Nat.add_assoc]

/-- The text of a layout when `before` arguments are bound before it. -/
def written (dialect : Dialect) (before : Nat) (layout : Layout) : String :=
  String.join ((layout.outputs before).map (Output.sql dialect))

theorem written_append (dialect : Dialect) (before : Nat) (first second : Layout) :
    (first ++ second).written dialect before = first.written dialect before ++
      second.written dialect (before + (scalars first.fragment.args).length) := by
  simp only [written, outputs_append, List.map_append, String.join_append]

theorem written_text_cons (dialect : Dialect) (before : Nat) (words : String) (rest : Layout) :
    written dialect before (.text words :: rest) = words ++ rest.written dialect before := by
  simp only [written, outputs, List.map_cons, String.join_cons, Output.sql]

theorem written_argument (dialect : Dialect) (before : Nat) (value : Value) :
    written dialect before [.argument value] =
      ", ".intercalate (dialect.slotsText before value.slots) := by
  simp only [written, outputs, List.append_nil, Output.join_intersperse, ← Output.slotsText_eq]

def statement (layout : Layout) (dialect : Dialect) : Statement :=
  ⟨String.join ((layout.outputs 0).map (Output.sql dialect)),
    ((layout.outputs 0).filterMap Output.binding?).map Prod.snd⟩

theorem bindings_outputs (before : Nat) (layout : Layout) :
    (layout.outputs before).filterMap Output.binding? =
      ((scalars layout.fragment.args).zipIdx (before + 1)).map Prod.swap := by
  induction layout generalizing before with
  | nil => rfl
  | cons piece rest ih =>
    cases piece with
    | text words => exact ih before
    | argument value =>
      have args : scalars (fragment (.argument value :: rest)).args =
          scalars [value] ++ scalars (fragment rest).args := by
        simp [fragment, scalars, Piece.value?]
      rw [args, List.zipIdx_append, List.map_append, outputs, List.filterMap_append,
        Output.bindings_ofSlots, ih]
      simp only [scalars, List.flatMap_singleton]
      rw [Nat.add_right_comm]

/-- The arguments of a statement are the scalars of its layout, numbered from one. -/
theorem bindings_statement (layout : Layout) (dialect : Dialect) :
    (layout.statement dialect).args = scalars layout.fragment.args ∧
      (layout.outputs 0).filterMap Output.binding? =
        ((layout.statement dialect).args.zipIdx 1).map Prod.swap := by
  have args : (layout.statement dialect).args = scalars layout.fragment.args := by
    rw [statement, bindings_outputs, List.map_map]
    exact List.zipIdx_map_fst _ _
  exact ⟨args, by rw [args, bindings_outputs]⟩

theorem statement_eq (layout : Layout) (dialect : Dialect) :
    layout.statement dialect = ⟨layout.written dialect 0, scalars layout.fragment.args⟩ := by
  rw [← (bindings_statement layout dialect).1]
  rfl

theorem renderFrom_text (dialect : Dialect) {state : QuoteState} {words : List Char}
    (plain : state.marks words = 0) (before : Nat) (args : List Value) (rest : List Char) :
    dialect.renderFrom state before args (words ++ rest) =
      (words ++ (dialect.renderFrom (state.after words) before args rest).1,
        (dialect.renderFrom (state.after words) before args rest).2) := by
  induction words generalizing state with
  | nil => rfl
  | cons c words ih =>
    simp only [QuoteState.marks, Nat.add_eq_zero_iff] at plain
    have kept : ¬(state = none ∧ c = '?') := fun mark => by simp [mark] at plain
    rw [List.cons_append, Dialect.renderFrom.eq_def]
    simp only [if_neg kept, ih plain.2]
    rfl

/-- Rendering a layout leaves the arguments behind its own alone. -/
theorem renderFrom_eq (dialect : Dialect) {layout : Layout} {state after : QuoteState}
    (scanned : layout.scan state = some after) (before : Nat) (extra : List Value) :
    dialect.renderFrom state before (layout.fragment.args ++ extra) layout.fragment.sql.toList =
      ((String.join ((layout.outputs before).map (Output.sql dialect))).toList,
        ((layout.outputs before).filterMap Output.binding?).map Prod.snd) := by
  induction layout generalizing state before with
  | nil => cases extra <;> rfl
  | cons piece rest ih =>
    cases piece with
    | text words =>
      simp only [scan, Option.ite_none_right_eq_some] at scanned
      have sql : (fragment (.text words :: rest)).sql.toList =
          words.toList ++ (fragment rest).sql.toList := by
        simp [fragment, String.join_cons, Piece.sql]
      have args : (fragment (.text words :: rest)).args = (fragment rest).args := rfl
      rw [sql, args, renderFrom_text dialect scanned.1, ih scanned.2]
      simp only [outputs, List.map_cons, String.join_cons, Output.sql, String.toList_append]
      rfl
    | argument value =>
      simp only [scan, Option.ite_none_right_eq_some] at scanned
      obtain ⟨rfl, scanned⟩ := scanned
      have sql : (fragment (.argument value :: rest)).sql.toList =
          '?' :: (fragment rest).sql.toList := by
        simp [fragment, String.join_cons, Piece.sql]
      have args : (fragment (.argument value :: rest)).args = value :: (fragment rest).args := rfl
      rw [sql, args, List.cons_append, Dialect.renderFrom]
      simp only [and_self, if_true, ih scanned, outputs, List.map_append, String.join_append,
        Output.join_intersperse, ← Output.slotsText_eq, String.toList_append, List.filterMap_append]
      have one : scalars [value] = value.slots.filterMap id := by simp [scalars]
      have bound : (((Output.ofSlots before value.slots).intersperse (.text ", ")).filterMap
          Output.binding?).map Prod.snd = value.slots.filterMap id := by
        rw [Output.bindings_ofSlots, List.map_map]
        exact List.zipIdx_map_fst _ _
      rw [one, bound]

theorem render_append_args {layout : Layout} (closed : layout.IsClosed) (dialect : Dialect)
    (extra : List Value) :
    Fragment.render ⟨layout.fragment.sql, layout.fragment.args ++ extra⟩ dialect =
      layout.statement dialect := by
  rw [Fragment.render, Dialect.render, renderFrom_eq dialect closed]
  simp only [statement, String.ofList_toList]

/-- Rendering a closed layout writes every argument in its own place. -/
theorem render_eq {layout : Layout} (closed : layout.IsClosed) (dialect : Dialect) :
    layout.fragment.render dialect = layout.statement dialect := by
  simpa using render_append_args closed dialect []

example : Fragment.render ⟨"a = '?' AND b IN (?)", [.list [.int 2, .null, .int 3]]⟩ .postgres =
    ⟨"a = '?' AND b IN ($1, NULL, $2)", [.int 2, .int 3]⟩ := rfl

/-- The question marks of a layout outside quotes are its arguments. -/
theorem marks_fragment {layout : Layout} {state after : QuoteState}
    (scanned : layout.scan state = some after) :
    state.marks layout.fragment.sql.toList = layout.fragment.args.length := by
  induction layout generalizing state with
  | nil => rfl
  | cons piece rest ih =>
    cases piece with
    | text words =>
      simp only [scan, Option.ite_none_right_eq_some] at scanned
      rw [fragment_text, String.toList_append, QuoteState.marks_append, scanned.1, Nat.zero_add]
      exact ih scanned.2
    | argument value =>
      simp only [scan, Option.ite_none_right_eq_some] at scanned
      obtain ⟨rfl, scanned⟩ := scanned
      have mark : QuoteState.marks none "?".toList = 1 := rfl
      have outside : QuoteState.after none "?".toList = none := rfl
      rw [fragment_argument, String.toList_append, QuoteState.marks_append, mark, outside,
        ih scanned, List.length_cons, Nat.add_comm]

end Layout

/-- A written piece. A bound argument keeps its question mark where the dialect has no numbers. -/
def Output.piece (dialect : Dialect) : Output → Piece
  | text words => .text words
  | null => .text "NULL"
  | bound position value =>
    if dialect = .postgres then .text ("$" ++ toString position) else .argument value

namespace Output

theorem sql_piece (dialect : Dialect) (output : Output) :
    (output.piece dialect).sql = output.sql dialect := by
  cases output with
  | bound position value =>
    simp only [piece, sql, Dialect.placeholder]
    split <;> rfl
  | _ => rfl

theorem value?_piece (dialect : Dialect) (output : Output) :
    (output.piece dialect).value? =
      if dialect = .postgres then none else output.binding?.map Prod.snd := by
  cases output with
  | bound position value =>
    simp only [piece, binding?]
    split <;> rfl
  | _ => exact (ite_self none).symm

theorem isClosed_slots (dialect : Dialect) (before : Nat) (slots : List (Option Value)) :
    Layout.IsClosed (((ofSlots before slots).intersperse (text ", ")).map (piece dialect)) := by
  have single : ∀ output ∈ ofSlots before slots, Layout.IsClosed [output.piece dialect] := by
    induction slots generalizing before with
    | nil => simp [ofSlots]
    | cons slot rest ih =>
      cases slot with
      | none => exact List.forall_mem_cons.2 ⟨(by decide : IsPlainText "NULL"), ih before⟩
      | some value =>
        refine List.forall_mem_cons.2 ⟨?_, ih (before + 1)⟩
        simp only [piece]
        split
        · exact IsPlainText.append (by decide : IsPlainText "$") (.of_number _)
        · rfl
  generalize ofSlots before slots = outputs at single
  induction outputs with
  | nil => rfl
  | cons first rest ih =>
    obtain ⟨here, later⟩ := List.forall_mem_cons.1 single
    cases rest with
    | nil => exact here
    | cons second rest =>
      rw [List.intersperse_cons_cons, List.map_cons, List.map_cons]
      exact here.append (Layout.isClosed_text_cons (by decide) (ih later))

end Output

namespace Layout

theorem scan_outputs (dialect : Dialect) {layout : Layout} {state after : QuoteState}
    (scanned : layout.scan state = some after) (before : Nat) :
    scan state ((layout.outputs before).map (Output.piece dialect)) = some after := by
  induction layout generalizing state before with
  | nil => exact scanned
  | cons piece rest ih =>
    cases piece with
    | text words =>
      simp only [scan, Option.ite_none_right_eq_some] at scanned
      rw [outputs, List.map_cons, Output.piece, scan, if_pos scanned.1]
      exact ih scanned.2 before
    | argument value =>
      simp only [scan, Option.ite_none_right_eq_some] at scanned
      obtain ⟨rfl, scanned⟩ := scanned
      rw [outputs, List.map_append, scan_append, Output.isClosed_slots]
      exact ih scanned _

/-- The question marks of a rendered statement outside quotes are what it binds, unless the dialect
has numbers instead. -/
theorem marks_statement {layout : Layout} (closed : layout.IsClosed) (dialect : Dialect) :
    QuoteState.marks none (layout.statement dialect).sql.toList =
      if dialect = .postgres then 0 else (layout.statement dialect).args.length := by
  have written := marks_fragment (scan_outputs dialect closed 0)
  have sql : (fragment ((layout.outputs 0).map (Output.piece dialect))).sql =
      (layout.statement dialect).sql := by
    rw [fragment, statement, List.map_map]
    exact congrArg String.join (List.map_congr_left fun output _ => output.sql_piece dialect)
  rw [sql] at written
  rw [written, fragment, statement, List.filterMap_map, Function.comp_def]
  simp only [Output.value?_piece]
  split
  · simp
  · rw [List.map_filterMap]

end Layout

end DataAccess
