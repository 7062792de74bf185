import DataAccess.Proofs.Sql.Layout

/-! Tokens of SQL text: words, runs of operator characters, quoted texts and single marks. Blanks
separate tokens and are dropped. A qualified name is one word, so none of its parts is a keyword.
Text that ends inside quotes has no tokens, nor has text with a comment or a semicolon. Quotes are
those of rendering, so the tokens tell which question marks it takes for arguments. -/
namespace DataAccess.Sql

inductive Token where
  | word (text : List Char)
  | operator (text : List Char)
  /-- with the quotes -/
  | quoted (text : List Char)
  /-- a parenthesis, placeholder, comma or semicolon -/
  | mark (c : Char)
deriving DecidableEq

inductive CharKind where
  | blank
  | quote
  | mark
  | word
  | operator
deriving DecidableEq

def isMark (c : Char) : Bool := c == '(' || c == ')' || c == '?' || c == ',' || c == ';'

def isBlank (c : Char) : Bool := c == ' ' || c == '\t' || c == '\n' || c == '\r'

/-- Letters beyond ASCII belong to words, and so does the dot of a qualified name. -/
def isWordChar (c : Char) : Bool :=
  c.isAlphanum || c == '_' || c == '.' || c == '$' || decide (128 ≤ c.toNat)

def CharKind.of (c : Char) : CharKind :=
  if isBlank c then blank
  else if isQuote c then quote
  else if isMark c then mark
  else if isWordChar c then word
  else operator

inductive Scan where
  | gap
  | word (read : List Char)
  | operator (read : List Char)
  | quoted (quote : Char) (read : List Char)

namespace Scan

/-- The token that ends where a blank or a mark follows. -/
def pending : Scan → List Token
  | word read => [.word read]
  | operator read => [.operator read]
  | _ => []

/-- One character outside quotes: the tokens it completes, and what is being read after it. -/
def stepOutside (scan : Scan) (c : Char) : List Token × Scan :=
  match CharKind.of c, scan with
  | .blank, scan => (scan.pending, gap)
  | .quote, scan => (scan.pending, quoted c [c])
  | .mark, scan => (scan.pending ++ [.mark c], gap)
  | .word, word read => ([], word (read ++ [c]))
  | .word, scan => (scan.pending, word [c])
  | .operator, operator read => ([], operator (read ++ [c]))
  | .operator, scan => (scan.pending, operator [c])

def step : Scan → Char → List Token × Scan
  | quoted quote read, c =>
    if c = quote then ([.quoted (read ++ [c])], gap) else ([], quoted quote (read ++ [c]))
  | scan, c => scan.stepOutside c

/-- The tokens that a text completes, and what is being read at its end. -/
def run : Scan → List Char → List Token × Scan
  | scan, [] => ([], scan)
  | scan, c :: rest =>
    ((scan.step c).1 ++ (run (scan.step c).2 rest).1, (run (scan.step c).2 rest).2)

def isQuoted : Scan → Bool
  | quoted _ _ => true
  | _ => false

end Scan

/-- Whether a run of operator characters begins a comment somewhere. -/
def beginsComment : List Char → Bool
  | '-' :: '-' :: _ => true
  | '/' :: '*' :: _ => true
  | _ :: rest => beginsComment rest
  | [] => false

/-- Whether a token has no place in a predicate. -/
def Token.isForeign : Token → Bool
  | operator text => beginsComment text
  | mark c => c == ';'
  | _ => false

def tokens? (text : List Char) : Option (List Token) :=
  let tokens := (Scan.run .gap text).1 ++ (Scan.run .gap text).2.pending
  if (Scan.run .gap text).2.isQuoted || tokens.any Token.isForeign then none else some tokens

theorem Scan.run_append (scan : Scan) (first second : List Char) :
    scan.run (first ++ second) =
      ((scan.run first).1 ++ ((scan.run first).2.run second).1,
        ((scan.run first).2.run second).2) := by
  induction first generalizing scan with
  | nil => rfl
  | cons c rest ih => simp only [List.cons_append, run, ih, List.append_assoc]

theorem Scan.step_of_not_quoted {scan : Scan} (outside : scan.isQuoted = false) (c : Char) :
    scan.step c = scan.stepOutside c := by
  cases scan with
  | quoted quote read => contradiction
  | _ => rfl

theorem tokens?_eq_some {text : List Char} {tokens : List Token} :
    tokens? text = some tokens ↔
      (Scan.run .gap text).2.isQuoted = false ∧ tokens.any Token.isForeign = false ∧
        (Scan.run .gap text).1 ++ (Scan.run .gap text).2.pending = tokens := by
  simp only [tokens?]
  constructor
  · intro read
    split at read
    · contradiction
    · next allowed =>
      simp only [Bool.or_eq_true, not_or, Bool.not_eq_true] at allowed
      obtain rfl := Option.some.inj read
      exact ⟨allowed.1, allowed.2, rfl⟩
  · rintro ⟨outside, allowed, rfl⟩
    simp [outside, allowed]

/-- A blank or a mark separates the tokens before it from those behind it. -/
theorem tokens?_append_cons {first second : List Char} {before behind between : List Token}
    {c : Char} (boundary : ∀ scan : Scan, scan.stepOutside c = (scan.pending ++ between, .gap))
    (allowed : between.any Token.isForeign = false)
    (left : tokens? first = some before) (right : tokens? second = some behind) :
    tokens? (first ++ c :: second) = some (before ++ between ++ behind) := by
  obtain ⟨outside, allowedBefore, rfl⟩ := tokens?_eq_some.1 left
  obtain ⟨outsideEnd, allowedBehind, rfl⟩ := tokens?_eq_some.1 right
  refine tokens?_eq_some.2 ?_
  rw [Scan.run_append]
  simp only [Scan.run, Scan.step_of_not_quoted outside, boundary]
  refine ⟨outsideEnd, ?_, by simp only [List.append_assoc]⟩
  simp only [List.any_append, Bool.or_eq_false_iff] at allowedBefore allowedBehind ⊢
  exact ⟨⟨allowedBefore, allowed⟩, allowedBehind⟩

theorem tokens?_blank {first second : List Char} {before behind : List Token}
    (left : tokens? first = some before) (right : tokens? second = some behind) :
    tokens? (first ++ ' ' :: second) = some (before ++ behind) := by
  have boundary (scan : Scan) : scan.stepOutside ' ' = (scan.pending ++ [], .gap) := by
    rw [List.append_nil]
    rfl
  simpa using tokens?_append_cons boundary rfl left right

theorem tokens?_parentheses {name inside : List Char} {before within : List Token}
    (left : tokens? name = some before) (right : tokens? inside = some within) :
    tokens? (name ++ '(' :: inside ++ [')']) =
      some (before ++ .mark '(' :: within ++ [.mark ')']) := by
  have opened : tokens? (name ++ '(' :: inside) = some (before ++ [.mark '('] ++ within) :=
    tokens?_append_cons (fun _ => rfl) rfl left right
  have closed : tokens? (name ++ '(' :: inside ++ [')']) =
      some (before ++ [.mark '('] ++ within ++ [.mark ')'] ++ []) :=
    tokens?_append_cons (fun _ => rfl) rfl opened rfl
  simpa using closed

theorem isQuote_eq_kind (c : Char) : isQuote c = decide (CharKind.of c = .quote) := by
  unfold CharKind.of
  by_cases blank : isBlank c
  · have other : isQuote c = false := by
      simp only [isBlank, Bool.or_eq_true, beq_iff_eq] at blank
      rcases blank with ((rfl | rfl) | rfl) | rfl <;> rfl
    rw [if_pos blank, other]
    rfl
  · rw [if_neg blank]
    cases quote : isQuote c with
    | true => rfl
    | false =>
      rw [if_neg (by simp)]
      split
      · rfl
      · split <;> rfl

namespace Scan

/-- The quotes that a scan is inside, as rendering tracks them. -/
def quote? : Scan → QuoteState
  | quoted quote _ => some quote
  | _ => none

theorem count_pending (scan : Scan) : scan.pending.count (.mark '?') = 0 := by
  cases scan <;> simp [pending]

theorem step_quote (scan : Scan) (c : Char) :
    (scan.step c).2.quote? = scan.quote?.next c ∧
      (scan.step c).1.count (.mark '?') = if scan.quote? = none ∧ c = '?' then 1 else 0 := by
  by_cases outside : scan.isQuoted = false
  · have none : scan.quote? = none := by
      cases scan with
      | quoted quote read => contradiction
      | _ => rfl
    rw [step_of_not_quoted outside, none]
    by_cases mark : c = '?'
    · subst mark
      have kind : CharKind.of '?' = .mark := rfl
      simp [stepOutside, kind, List.count_append, count_pending, quote?, QuoteState.next, isQuote]
    · rw [if_neg (fun given => mark given.2)]
      simp only [QuoteState.next, isQuote_eq_kind, stepOutside]
      cases kind : CharKind.of c with
      | blank => simp [quote?, count_pending]
      | quote => simp [quote?, count_pending]
      | mark => simp [quote?, count_pending, mark]
      | word => cases scan <;> simp [quote?, pending]
      | operator => cases scan <;> simp [quote?, pending]
  · cases scan with
    | quoted quote read =>
      simp only [step, quote?, QuoteState.next]
      by_cases closes : c = quote <;> simp [closes]
    | _ => exact absurd rfl outside

theorem run_quote (scan : Scan) (text : List Char) :
    (scan.run text).2.quote? = scan.quote?.after text ∧
      (scan.run text).1.count (.mark '?') = scan.quote?.marks text := by
  induction text generalizing scan with
  | nil => exact ⟨rfl, rfl⟩
  | cons c rest ih =>
    obtain ⟨next, counted⟩ := step_quote scan c
    obtain ⟨after, marks⟩ := ih (scan.step c).2
    rw [next] at after marks
    refine ⟨after, ?_⟩
    rw [run, List.count_append, counted, marks, QuoteState.marks]

end Scan

/-- The tokens of a text tell its question marks outside quotes, and its quotes are balanced. -/
theorem marks_of_tokens? {text : List Char} {tokens : List Token}
    (read : tokens? text = some tokens) :
    QuoteState.after none text = none ∧
      QuoteState.marks none text = tokens.count (.mark '?') := by
  obtain ⟨outside, _, rfl⟩ := tokens?_eq_some.1 read
  obtain ⟨after, marks⟩ := Scan.run_quote .gap text
  rw [List.count_append, marks, Scan.count_pending]
  refine ⟨after.symm.trans ?_, rfl⟩
  cases ended : (Scan.run .gap text).2 with
  | quoted quote read =>
    rw [ended] at outside
    contradiction
  | _ => rfl

end DataAccess.Sql
