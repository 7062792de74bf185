import DataAccess.Proofs.Sql.Identifier
import DataAccess.Proofs.Sql.Rendering
import DataAccess.Text.Blank

/-! The grammar of identifiers. A dotted name is ASCII words joined by single dots; a starred one is
a star behind words that are each followed by a dot. The check takes a text apart at its dots, so
what it accepts is put together from them. Such a name has no character that a statement is divided
at, so it stays as it is wherever it stands, and everything around it does as well. -/
namespace DataAccess.Sql

/-- `[A-Za-z_]` -/
def IsLead (c : Char) : Prop := ('A' ≤ c ∧ c ≤ 'Z') ∨ ('a' ≤ c ∧ c ≤ 'z') ∨ c = '_'

/-- `[A-Za-z0-9_]` -/
def IsInner (c : Char) : Prop := IsLead c ∨ ('0' ≤ c ∧ c ≤ '9')

/-- `[A-Za-z_][A-Za-z0-9_]*` -/
inductive IsWord : List Char → Prop
  | spelled {first : Char} {rest : List Char} (lead : IsLead first)
    (inner : ∀ c ∈ rest, IsInner c) : IsWord (first :: rest)

/-- One or more words, joined by single dots. -/
def IsDotted (text : List Char) : Prop :=
  ∃ words ≠ [], (∀ word ∈ words, IsWord word) ∧ text = ['.'].intercalate words

/-- Any number of words, each with a dot behind it, and a star. -/
def IsStarred (text : List Char) : Prop :=
  ∃ words : List (List Char), (∀ word ∈ words, IsWord word) ∧
    text = words.flatMap (· ++ ['.']) ++ ['*']

theorem isSegmentStart_iff {c : Char} : isSegmentStart c ↔ IsLead c := by
  have upper : c.isUpper ↔ 'A' ≤ c ∧ c ≤ 'Z' := decide_eq_true_iff
  have lower : c.isLower ↔ 'a' ≤ c ∧ c ≤ 'z' := by
    have parts : c.isLower = (decide ('a' ≤ c) && decide (c ≤ 'z')) := rfl
    rw [parts, Bool.and_eq_true, decide_eq_true_iff, decide_eq_true_iff]
  have alpha : c.isAlpha = (c.isUpper || c.isLower) := rfl
  rw [isSegmentStart, alpha, Bool.or_eq_true, Bool.or_eq_true, upper, lower, beq_iff_eq, or_assoc]
  rfl

theorem isSegmentChar_iff {c : Char} : isSegmentChar c ↔ IsInner c := by
  have start : isSegmentStart c ↔ IsLead c := isSegmentStart_iff
  simp only [isSegmentStart, Bool.or_eq_true, beq_iff_eq] at start
  simp only [isSegmentChar, IsInner, Char.isAlphanum, Bool.or_eq_true, beq_iff_eq, ← start]
  simp only [Char.isDigit, Char.le_def, ge_iff_le, Bool.and_eq_true, decide_eq_true_eq]
  exact or_right_comm

theorem isSegment_iff {segment : List Char} : isSegment segment ↔ IsWord segment := by
  constructor
  · intro named
    cases segment with
    | nil => contradiction
    | cons first rest =>
      obtain ⟨start, inner⟩ := Bool.and_eq_true_iff.1 named
      exact .spelled (isSegmentStart_iff.1 start) fun c member =>
        isSegmentChar_iff.1 (List.all_eq_true.1 inner c member)
  · rintro ⟨lead, inner⟩
    refine Bool.and_eq_true_iff.2 ⟨isSegmentStart_iff.2 lead, List.all_eq_true.2 fun c member => ?_⟩
    exact isSegmentChar_iff.2 (inner c member)

theorem areSegments_iff {segments : List (List Char)} :
    areSegments false segments ↔ ∀ segment ∈ segments, IsWord segment := by
  induction segments with
  | nil => simp [areSegments]
  | cons segment rest ih =>
    rw [List.forall_mem_cons, ← isSegment_iff, ← ih, ← Bool.and_eq_true_iff]
    rfl

theorem not_isWord_star : ¬IsWord ['*'] := fun word =>
  absurd (isSegment_iff.2 word) (by decide)

/-- With a star the last segment may be one. It is no word, so it stands alone there. -/
theorem areSegments_star_iff {segments : List (List Char)} :
    areSegments true segments ↔ (∀ segment ∈ segments, IsWord segment) ∨
      ∃ words, (∀ word ∈ words, IsWord word) ∧ segments = words ++ [['*']] := by
  induction segments with
  | nil => simp [areSegments]
  | cons segment rest ih =>
    by_cases star : segment = ['*']
    · -- the check answers at a star, so nothing may follow it
      subst star
      have last : areSegments true (['*'] :: rest) = rest.isEmpty := rfl
      rw [last, List.isEmpty_iff]
      constructor
      · rintro rfl
        exact .inr ⟨[], List.forall_mem_nil _, rfl⟩
      · rintro (words | ⟨words, each, parts⟩)
        · exact absurd (words _ List.mem_cons_self) not_isWord_star
        · cases words with
          | nil => exact (List.cons.inj parts).2
          | cons word words =>
            obtain ⟨rfl, _⟩ := List.cons.inj parts
            exact absurd (each _ List.mem_cons_self) not_isWord_star
    · have further : areSegments true (segment :: rest) =
          (isSegment segment && areSegments true rest) := by
        rw [areSegments, beq_eq_false_iff_ne.2 star]
        rfl
      rw [further, Bool.and_eq_true, isSegment_iff, ih]
      constructor
      · rintro ⟨word, words | ⟨words, each, rfl⟩⟩
        · exact .inl (List.forall_mem_cons.2 ⟨word, words⟩)
        · exact .inr ⟨segment :: words, List.forall_mem_cons.2 ⟨word, each⟩, rfl⟩
      · rintro (words | ⟨words, each, parts⟩)
        · obtain ⟨word, words⟩ := List.forall_mem_cons.1 words
          exact ⟨word, .inl words⟩
        · cases words with
          | nil => exact absurd (List.cons.inj parts).1 star
          | cons word words =>
            obtain ⟨rfl, behind⟩ := List.cons.inj parts
            obtain ⟨here, later⟩ := List.forall_mem_cons.1 each
            exact ⟨here, .inr ⟨words, later, behind⟩⟩

/-- The parts of a text between its dots put it together again. -/
theorem eq_intercalate_splitOn (text : List Char) :
    text = ['.'].intercalate (text.splitOn '.') :=
  (List.intercalate_splitOn '.').symm

theorem IsWord.not_mem_dot {word : List Char} (spelled : IsWord word) : '.' ∉ word := by
  obtain ⟨lead, inner⟩ := spelled
  intro member
  rcases List.mem_cons.1 member with rfl | later
  · exact absurd (isSegmentStart_iff.2 lead) (by decide)
  · exact absurd (isSegmentChar_iff.2 (inner _ later)) (by decide)

theorem intercalate_concat_star (words : List (List Char)) :
    ['.'].intercalate (words ++ [['*']]) = words.flatMap (· ++ ['.']) ++ ['*'] := by
  induction words with
  | nil => rfl
  | cons word rest ih =>
    obtain ⟨second, others, parts⟩ : ∃ second others, rest ++ [['*']] = second :: others :=
      List.exists_cons_of_ne_nil (by simp)
    rw [List.cons_append, parts, List.intercalate_cons_cons, ← parts, ih, List.flatMap_cons]
    simp only [List.append_assoc]

/-- The check accepts the dotted names. -/
theorem isIdentifier_iff {text : String} : isIdentifier text false ↔ IsDotted text.toList := by
  unfold isIdentifier
  rw [areSegments_iff]
  constructor
  · intro words
    exact ⟨_, List.splitOn_ne_nil '.' _, words, eq_intercalate_splitOn _⟩
  · rintro ⟨words, nonempty, each, same⟩
    have undotted : ∀ word ∈ words, '.' ∉ word := fun word member => (each word member).not_mem_dot
    rw [same, List.splitOn_intercalate '.' undotted nonempty]
    exact each

example : isIdentifier "a..b" false = false := by decide

example : isIdentifier "größe" false = false := by decide

/-- With a star the check accepts the starred names as well. -/
theorem isIdentifier_star_iff {text : String} :
    isIdentifier text true ↔ IsDotted text.toList ∨ IsStarred text.toList := by
  have plain : isIdentifier text false ↔ IsDotted text.toList := isIdentifier_iff
  unfold isIdentifier at plain ⊢
  rw [areSegments_star_iff, ← areSegments_iff, plain]
  refine or_congr_right ⟨?_, ?_⟩
  · rintro ⟨words, each, parts⟩
    refine ⟨words, each, ?_⟩
    rw [← intercalate_concat_star, ← parts]
    exact eq_intercalate_splitOn _
  · rintro ⟨words, each, same⟩
    refine ⟨words, each, ?_⟩
    rw [same, ← intercalate_concat_star]
    refine List.splitOn_intercalate '.' ?_ (by simp)
    intro part member
    rcases List.mem_append.1 member with word | star
    · exact (each part word).not_mem_dot
    · obtain rfl := List.mem_singleton.1 star
      decide

/-- A character at which no statement is divided: no quote, placeholder, comma, parenthesis or
blank. -/
structure IsInert (c : Char) : Prop where
  unquoted : isQuote c = false
  unmarked : c ∉ ['?', ',', '(', ')']
  visible : Text.isBlank c = false

theorem IsInner.toNat {c : Char} (inner : IsInner c) : 65 ≤ c.toNat ∧ c.toNat ≤ 90 ∨
    97 ≤ c.toNat ∧ c.toNat ≤ 122 ∨ c.toNat = 95 ∨ 48 ≤ c.toNat ∧ c.toNat ≤ 57 := by
  rcases inner with (upper | lower | rfl) | digit
  · exact .inl upper
  · exact .inr (.inl lower)
  · exact .inr (.inr (.inl rfl))
  · exact .inr (.inr (.inr digit))

theorem IsInner.isInert {c : Char} (inner : IsInner c) : IsInert c := by
  have number := inner.toNat
  refine ⟨?_, ?_, ?_⟩
  · simp only [isQuote, Bool.or_eq_false_iff, beq_eq_false_iff_ne]
    refine ⟨⟨?_, ?_⟩, ?_⟩
    all_goals
      rintro rfl
      revert number
      decide
  · intro member
    simp only [List.mem_cons, List.not_mem_nil, or_false] at member
    rcases member with rfl | rfl | rfl | rfl
    all_goals
      revert number
      decide
  · refine Bool.eq_false_iff.2 fun blank => ?_
    obtain ⟨⟨first, last⟩, listed, within⟩ := List.any_eq_true.1 blank
    simp only [Bool.and_eq_true, decide_eq_true_eq] at within
    simp only [Text.blankRanges, List.mem_cons, Prod.mk.injEq, List.not_mem_nil, or_false] at listed
    omega

theorem isInert_dot : IsInert '.' := by
  constructor <;> decide

theorem isInert_star : IsInert '*' := by
  constructor <;> decide

theorem IsWord.isInert {word : List Char} (spelled : IsWord word) : ∀ c ∈ word, IsInert c := by
  obtain ⟨lead, inner⟩ := spelled
  refine List.forall_mem_cons.2 ⟨IsInner.isInert (.inl lead), ?_⟩
  intro c member
  exact (inner c member).isInert

theorem IsDotted.isInert {text : List Char} (dotted : IsDotted text) : ∀ c ∈ text, IsInert c := by
  obtain ⟨words, _, each, rfl⟩ := dotted
  intro c member
  rcases mem_intercalate member with rfl | ⟨word, listed, here⟩
  · exact isInert_dot
  · exact (each word listed).isInert c here

theorem IsStarred.isInert {text : List Char} (starred : IsStarred text) :
    ∀ c ∈ text, IsInert c := by
  obtain ⟨words, each, rfl⟩ := starred
  intro c member
  rw [← intercalate_concat_star] at member
  rcases mem_intercalate member with rfl | ⟨part, listed, here⟩
  · exact isInert_dot
  · rcases List.mem_append.1 listed with word | star
    · exact (each part word).isInert c here
    · obtain rfl := List.mem_singleton.1 star
      obtain rfl := List.mem_singleton.1 here
      exact isInert_star

theorem isInert_of_isIdentifier {text : String} {star : Bool} (accepted : isIdentifier text star) :
    ∀ c ∈ text.toList, IsInert c := by
  cases star with
  | false => exact (isIdentifier_iff.1 accepted).isInert
  | true =>
    rcases isIdentifier_star_iff.1 accepted with dotted | starred
    · exact dotted.isInert
    · exact starred.isInert

end DataAccess.Sql

namespace DataAccess

open Sql

namespace QuoteState

/-- Only a quote leaves a text inside quotes. -/
theorem isQuote_of_after {text : List Char} {state : QuoteState} {quote : Char}
    (quotes : ∀ other ∈ state, isQuote other) (inside : state.after text = some quote) :
    isQuote quote := by
  induction text generalizing state with
  | nil => exact quotes quote inside
  | cons c rest ih =>
    refine ih (fun other reached => ?_) inside
    cases state with
    | none =>
      by_cases here : isQuote c
      · rw [next_of_quote here] at reached
        obtain rfl := Option.some.inj reached
        exact here
      · rw [next_of_unquoted (Bool.eq_false_iff.2 here)] at reached
        exact absurd reached (Option.not_mem_none other)
    | some opened =>
      by_cases closes : c = opened
      · have left : next (some opened) c = none := if_pos closes
        rw [left] at reached
        exact absurd reached (Option.not_mem_none other)
      · have stays : next (some opened) c = some opened := if_neg closes
        rw [stays] at reached
        exact quotes other reached

theorem next_of_isInert {state : QuoteState} {c : Char} (inert : IsInert c)
    (quotes : ∀ other ∈ state, isQuote other) : state.next c = state := by
  cases state with
  | none => exact next_of_unquoted inert.unquoted
  | some quote =>
    have apart : c ≠ quote := by
      rintro rfl
      have opened := quotes c rfl
      rw [inert.unquoted] at opened
      contradiction
    exact if_neg apart

theorem after_of_isInert {state : QuoteState} {text : List Char} (inert : ∀ c ∈ text, IsInert c)
    (quotes : ∀ other ∈ state, isQuote other) : state.after text = state := by
  induction text with
  | nil => rfl
  | cons c rest ih =>
    obtain ⟨here, later⟩ := List.forall_mem_cons.1 inert
    rw [after_cons, next_of_isInert here quotes, ih later]

theorem marks_of_isInert {text : List Char} (inert : ∀ c ∈ text, IsInert c)
    (state : QuoteState) : state.marks text = 0 := by
  refine marks_of_not_mem ?_ state
  intro member
  exact (inert '?' member).unmarked List.mem_cons_self

end QuoteState

theorem Dialect.render_of_inert (dialect : Dialect) (args : List Value) {text : String}
    (inert : ∀ c ∈ text.toList, IsInert c) : dialect.render text args = ⟨text, []⟩ := by
  have silent := QuoteState.marks_of_isInert inert none
  have whole := Layout.renderFrom_text dialect silent 0 args []
  rw [List.append_nil] at whole
  rw [render, whole]
  simp only [renderFrom, List.append_nil, String.ofList_toList]

/-- Inert text is written where it stands, and what stands around it is written as it is without
it. -/
theorem Dialect.render_around_inert (dialect : Dialect) (args : List Value) {text : String}
    (inert : ∀ c ∈ text.toList, IsInert c) (before behind : String) :
    QuoteState.after none (before ++ text).toList = QuoteState.after none before.toList ∧
    ∃ written bound,
      dialect.render (before ++ behind) args =
        ⟨(dialect.render before args).sql ++ written, bound⟩ ∧
      dialect.render (before ++ text ++ behind) args =
        ⟨(dialect.render before args).sql ++ text ++ written, bound⟩ := by
  have quotes : ∀ quote ∈ QuoteState.after none before.toList, isQuote quote := fun _ inside =>
    QuoteState.isQuote_of_after (by simp) inside
  have kept : (QuoteState.after none before.toList).after text.toList =
      QuoteState.after none before.toList := QuoteState.after_of_isInert inert quotes
  have silent := QuoteState.marks_of_isInert inert (QuoteState.after none before.toList)
  constructor
  · rw [String.toList_append, QuoteState.after_append, kept]
  · -- what is behind is rendered with the arguments that the text in front has left over
    let tail := dialect.renderFrom (QuoteState.after none before.toList)
      (dialect.render before args).args.length
      (args.drop (QuoteState.marks none before.toList)) behind.toList
    refine ⟨String.ofList tail.1, (dialect.render before args).args ++ tail.2, ?_, ?_⟩
    · simp only [tail, render, String.toList_append, renderFrom_append, String.ofList_append,
        Nat.zero_add]
    · simp only [tail, render, String.toList_append, renderFrom_append, kept,
        Layout.renderFrom_text dialect silent, String.ofList_append, String.ofList_toList,
        String.append_assoc, Nat.zero_add]

/-- An identifier is exactly a dotted name, or where a star may stand a starred one. No statement is
divided inside it. Rendered alone it is its own text without arguments. Inside a statement it leaves
the quotes as they are, and it is written as it stands between what is written without it. -/
theorem identifiers_follow_grammar (text : String) :
    (isIdentifier text false ↔ IsDotted text.toList) ∧
    (isIdentifier text true ↔ IsDotted text.toList ∨ IsStarred text.toList) ∧
    ∀ star, isIdentifier text star →
      (∀ c ∈ text.toList, IsInert c) ∧
      ∀ (dialect : Dialect) (args : List Value),
        dialect.render text args = ⟨text, []⟩ ∧
        ∀ before behind : String,
          QuoteState.after none (before ++ text).toList = QuoteState.after none before.toList ∧
          ∃ written bound,
            dialect.render (before ++ behind) args =
              ⟨(dialect.render before args).sql ++ written, bound⟩ ∧
            dialect.render (before ++ text ++ behind) args =
              ⟨(dialect.render before args).sql ++ text ++ written, bound⟩ := by
  refine ⟨isIdentifier_iff, isIdentifier_star_iff, fun star accepted => ?_⟩
  have inert := isInert_of_isIdentifier accepted
  refine ⟨inert, fun dialect args => ⟨?_, dialect.render_around_inert args inert⟩⟩
  exact dialect.render_of_inert args inert

/-- A starred name between a placeholder and an open quote. -/
theorem identifiers_follow_grammar_starred :
    isIdentifier "public.users.*" true ∧ isIdentifier "public.users.*" false = false ∧
    IsStarred "public.users.*".toList ∧ ¬IsDotted "public.users.*".toList ∧
    Dialect.sqlite.render "public.users.*" [.null] = ⟨"public.users.*", []⟩ ∧
    QuoteState.after none ("a = ? AND b = '" ++ "public.users.*").toList = some '\'' := by
  obtain ⟨dotted, starred, accepted⟩ := identifiers_follow_grammar "public.users.*"
  have allowed : isIdentifier "public.users.*" true := by decide
  have refused : isIdentifier "public.users.*" false = false := by decide
  have plain : ¬IsDotted "public.users.*".toList := fun named => by
    rw [dotted.2 named] at refused
    contradiction
  obtain ⟨_, rendered⟩ := accepted true allowed
  obtain ⟨alone, around⟩ := rendered .sqlite [.null]
  refine ⟨allowed, refused, (starred.1 allowed).resolve_left plain, plain, alone, ?_⟩
  rw [(around "a = ? AND b = '" "").1]
  decide

end DataAccess
