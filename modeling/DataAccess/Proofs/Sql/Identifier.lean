import DataAccess.Proofs.Sql.Compilation
import DataAccess.Sql.Identifier

/-! Identifiers in SQL text. An identifier is one word, so it is an operand unless it is a keyword;
a qualified name holds a dot and is no keyword. -/
namespace DataAccess.Sql

def isNameChar (c : Char) : Bool := isSegmentChar c || c == '.'

theorem isNameChar_of_isSegment {segment : List Char} (named : isSegment segment) :
    segment ≠ [] ∧ ∀ c ∈ segment, isNameChar c := by
  cases segment with
  | nil => contradiction
  | cons first rest =>
    simp only [isSegment, Bool.and_eq_true, List.all_eq_true] at named
    refine ⟨List.cons_ne_nil _ _, fun c member => ?_⟩
    rcases List.mem_cons.1 member with rfl | member
    · have start := named.1
      simp only [isSegmentStart, Bool.or_eq_true] at start
      simp only [isNameChar, isSegmentChar, Char.isAlphanum, Bool.or_eq_true]
      exact .inl (start.imp_left .inl)
    · simp only [isNameChar, Bool.or_eq_true]
      exact .inl (named.2 c member)

theorem isNameChar_of_areSegments {segments : List (List Char)}
    (named : areSegments false segments) :
    ∀ segment ∈ segments, segment ≠ [] ∧ ∀ c ∈ segment, isNameChar c := by
  induction segments with
  | nil => simp
  | cons segment rest ih =>
    simp only [areSegments, Bool.false_and, Bool.false_eq_true, if_false, Bool.and_eq_true] at named
    intro other member
    rcases List.mem_cons.1 member with rfl | member
    · exact isNameChar_of_isSegment named.1
    · exact ih named.2 other member

theorem mem_intercalate {separator c : Char} {texts : List (List Char)}
    (member : c ∈ [separator].intercalate texts) : c = separator ∨ ∃ text ∈ texts, c ∈ text := by
  induction texts with
  | nil => contradiction
  | cons text rest ih =>
    cases rest with
    | nil =>
      rw [List.intercalate_singleton] at member
      exact .inr ⟨text, List.mem_cons_self, member⟩
    | cons second rest =>
      rw [List.intercalate_cons_cons] at member
      simp only [List.mem_append, List.mem_singleton] at member
      rcases member with (here | here) | later
      · exact .inr ⟨text, List.mem_cons_self, here⟩
      · exact .inl here
      · exact (ih later).imp_right fun ⟨other, listed, here⟩ =>
          ⟨other, List.mem_cons_of_mem _ listed, here⟩

/-- An identifier is not empty and holds letters, digits, underscores and dots. -/
theorem isNameChar_of_isIdentifier {text : String} (named : isIdentifier text false) :
    text.toList ≠ [] ∧ ∀ c ∈ text.toList, isNameChar c := by
  have segments := isNameChar_of_areSegments named
  have whole : ['.'].intercalate (text.toList.splitOn '.') = text.toList :=
    List.intercalate_splitOn '.'
  constructor
  · intro empty
    rw [empty, List.splitOn_nil] at segments
    exact (segments [] (List.mem_singleton_self _)).1 rfl
  · intro c member
    rw [← whole] at member
    rcases mem_intercalate member with rfl | ⟨segment, listed, here⟩
    · rfl
    · exact (segments segment listed).2 c here

theorem charKind_of_isNameChar {c : Char} (name : isNameChar c) : CharKind.of c = .word := by
  have blank : isBlank c = false := by
    by_contra blank
    simp only [isBlank, Bool.not_eq_false, Bool.or_eq_true, beq_iff_eq] at blank
    rcases blank with ((rfl | rfl) | rfl) | rfl <;> contradiction
  have quote : isQuote c = false := by
    by_contra quote
    simp only [isQuote, Bool.not_eq_false, Bool.or_eq_true, beq_iff_eq] at quote
    rcases quote with (rfl | rfl) | rfl <;> contradiction
  have mark : isMark c = false := by
    by_contra mark
    simp only [isMark, Bool.not_eq_false, Bool.or_eq_true, beq_iff_eq] at mark
    rcases mark with (((rfl | rfl) | rfl) | rfl) | rfl <;> contradiction
  have word : isWordChar c := by
    simp only [isNameChar, isSegmentChar, Bool.or_eq_true] at name
    simp only [isWordChar, Bool.or_eq_true]
    exact .inl (.inl name)
  simp [CharKind.of, blank, quote, mark, word]

theorem run_word {read text : List Char} (word : ∀ c ∈ text, CharKind.of c = .word) :
    (Scan.word read).run text = ([], .word (read ++ text)) := by
  induction text generalizing read with
  | nil => simp [Scan.run]
  | cons c rest ih =>
    have kind := word c List.mem_cons_self
    have stepped : (Scan.word read).step c = ([], .word (read ++ [c])) := by
      simp [Scan.step, Scan.stepOutside, kind]
    rw [Scan.run, stepped, ih fun c member => word c (List.mem_cons_of_mem _ member)]
    simp

theorem tokens?_word {text : List Char} (nonempty : text ≠ [])
    (word : ∀ c ∈ text, CharKind.of c = .word) : tokens? text = some [.word text] := by
  obtain ⟨c, rest, rfl⟩ := List.exists_cons_of_ne_nil nonempty
  have kind := word c List.mem_cons_self
  have stepped : Scan.gap.step c = ([], .word [c]) := by
    simp [Scan.step, Scan.stepOutside, kind, Scan.pending]
  have ended : Scan.gap.run (c :: rest) = ([], .word (c :: rest)) := by
    rw [Scan.run, stepped, run_word fun c member => word c (List.mem_cons_of_mem _ member)]
    rfl
  refine tokens?_eq_some.2 ?_
  rw [ended]
  exact ⟨rfl, rfl, rfl⟩

theorem tokens?_name {text : List Char} (nonempty : text ≠ []) (name : ∀ c ∈ text, isNameChar c) :
    tokens? text = some [.word text] :=
  tokens?_word nonempty fun c member => charKind_of_isNameChar (name c member)

/-- A name that is no keyword. -/
def IsUnreserved (text : List Char) : Prop :=
  text.map Char.toLower ∉ ["and".toList, "or".toList, "between".toList]

theorem items?_name {text : String} (nonempty : text.toList ≠ [])
    (name : ∀ c ∈ text.toList, isNameChar c) :
    items? text = some [.single (.word text.toList)] := by
  refine items?_eq_some.2 ⟨_, tokens?_name nonempty name, rfl⟩

theorem isPlain_word {text : List Char} (unreserved : IsUnreserved text) :
    (Item.single (.word text)).isPlain := by
  simp only [IsUnreserved, List.mem_cons, List.not_mem_nil, or_false, not_or] at unreserved
  obtain ⟨and, or, between⟩ := unreserved
  simp only [Item.isPlain, Item.connective?, Item.isBetween, Token.isKeyword,
    beq_eq_false_iff_ne.2 and, beq_eq_false_iff_ne.2 or, beq_eq_false_iff_ne.2 between]
  rfl

theorem isOperand_name {text : String} (nonempty : text.toList ≠ [])
    (name : ∀ c ∈ text.toList, isNameChar c) (unreserved : IsUnreserved text.toList) :
    isOperand text := by
  unfold isOperand
  rw [items?_name nonempty name]
  simpa using isPlain_word unreserved

theorem isUnreserved_of_dot {text : List Char} (dotted : '.' ∈ text) : IsUnreserved text := by
  intro keyword
  have lowered : '.' ∈ text.map Char.toLower := List.mem_map.2 ⟨'.', dotted, rfl⟩
  simp only [List.mem_cons, List.not_mem_nil, or_false] at keyword
  rcases keyword with same | same | same <;>
  · rw [same] at lowered
    revert lowered
    decide

theorem isNameChar_of_qualified {table column : String} (tableNamed : isIdentifier table false)
    (columnNamed : isIdentifier column false) :
    (table ++ "." ++ column).toList ≠ [] ∧
      ∀ c ∈ (table ++ "." ++ column).toList, isNameChar c := by
  have whole : (table ++ "." ++ column).toList = table.toList ++ '.' :: column.toList := by simp
  rw [whole]
  refine ⟨by simp, fun c member => ?_⟩
  rcases List.mem_append.1 member with here | later
  · exact (isNameChar_of_isIdentifier tableNamed).2 c here
  · rcases List.mem_cons.1 later with rfl | here
    · rfl
    · exact (isNameChar_of_isIdentifier columnNamed).2 c here

theorem isOperand_qualified {table column : String} (tableNamed : isIdentifier table false)
    (columnNamed : isIdentifier column false) : isOperand (table ++ "." ++ column) := by
  have chars := isNameChar_of_qualified tableNamed columnNamed
  exact isOperand_name chars.1 chars.2 (isUnreserved_of_dot (by simp))

end DataAccess.Sql
