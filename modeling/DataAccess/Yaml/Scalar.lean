import DataAccess.Number.Unsigned

/-! Scalars of a YAML document. A plain scalar ends where the grammar around it goes on; a quoted
one ends at its quote. Both may go on over several lines: a single line break between two words is a
blank, and of several the first is dropped. -/
namespace DataAccess.Yaml

structure Position where
  line : Nat
  column : Nat
  /-- the size of the text before it, in bytes -/
  index : Nat

namespace Position

def start : Position := ⟨0, 0, 0⟩

def next (position : Position) (c : Char) : Position :=
  ⟨position.line, position.column + 1, position.index + c.utf8Size⟩

def nextLine (position : Position) : Position := ⟨position.line + 1, 0, position.index + 1⟩

def advance (position : Position) (n : Nat) : Position :=
  ⟨position.line, position.column + n, position.index + n⟩

end Position

/-- The separators of lines and of paragraphs break lines, and stay in scalars as they are. -/
def isSeparator (c : Char) : Bool := c.toNat == 0x2028 || c.toNat == 0x2029

/-- Whether a character breaks a line, in a text whose other line breaks are all line feeds. -/
def isBreak (c : Char) : Bool := c == '\n' || isSeparator c

/-- Make every carriage return, next-line character and pair of return and feed a line feed. -/
def lineFeeds : List Char → List Char
  | [] => []
  | '\r' :: '\n' :: rest => '\n' :: lineFeeds rest
  | c :: rest => (if c = '\r' ∨ c.toNat = 0x85 then '\n' else c) :: lineFeeds rest

def isSpace (c : Char) : Bool := c == ' ' || c == '\t'

def atWordEnd : List Char → Bool
  | [] => true
  | c :: _ => isSpace c || isBreak c

/-- Whether a line with the mark of a document's start or end begins here. -/
def atDocumentMark : List Char → Bool
  | '-' :: '-' :: '-' :: rest => atWordEnd rest
  | '.' :: '.' :: '.' :: rest => atWordEnd rest
  | _ => false

/-- The blanks between two words of a scalar. -/
structure Gap where
  /-- the spaces before the first line break -/
  spaces : List Char
  breaks : List Char
  /-- whether a backslash hides the first line break, which then is not among `breaks` -/
  hidden : Bool

namespace Gap

def none : Gap := ⟨[], [], false⟩

def isFolded (gap : Gap) : Bool := gap.hidden || !gap.breaks.isEmpty

/-- One more space; those at the start of a line do not count. -/
def addSpace (gap : Gap) (c : Char) : Gap :=
  if gap.isFolded then gap else { gap with spaces := gap.spaces ++ [c] }

def addBreak (gap : Gap) (c : Char) : Gap := { gap with breaks := gap.breaks ++ [c] }

def text (gap : Gap) : List Char :=
  match gap.hidden, gap.breaks with
  | true, breaks => breaks
  | false, [] => gap.spaces
  | false, ['\n'] => [' ']
  | false, '\n' :: breaks => breaks
  | false, breaks => breaks

end Gap

structure ScalarReading where
  text : String
  rest : List Char
  position : Position
  /-- whether line breaks follow the scalar -/
  endsLine : Bool

/-- Brackets and commas end a plain scalar inside brackets. -/
def isFlowMark (c : Char) : Bool := c == ',' || c == '[' || c == ']' || c == '\x7b' || c == '\x7d'

def endsPlain (flow : Bool) (c : Char) (rest : List Char) : Bool :=
  (c == ':' && atWordEnd rest) || (flow && isFlowMark c)

/-- Inside brackets a colon may not stand before a bracket, a comma or a question mark. -/
def isStrayColon (flow : Bool) (c : Char) (rest : List Char) : Bool :=
  flow && c == ':' && (match rest with | d :: _ => isFlowMark d || d == '?' | [] => false)

/-- Read the rest of a plain scalar, whose text so far is reversed in `before`. Outside brackets its
lines must be indented by `indent` at least. -/
def readPlain (flow : Bool) (indent : Nat) (before : List Char) (gap : Gap) (position : Position) :
    List Char → Option ScalarReading
  | [] => some ⟨String.ofList before.reverse, [], position, gap.isFolded⟩
  | c :: rest =>
    let stop := some ⟨String.ofList before.reverse, c :: rest, position, gap.isFolded⟩
    let afterGap := gap.isFolded || !gap.spaces.isEmpty
    if isBreak c then readPlain flow indent before (gap.addBreak c) position.nextLine rest
    else if isSpace c then
      if gap.isFolded && c == '\t' && position.column < indent then none
      else readPlain flow indent before (gap.addSpace c) (position.next c) rest
    else if afterGap && ((!flow && position.column < indent) || c == '#' ||
        (position.column == 0 && atDocumentMark (c :: rest))) then stop
    else if isStrayColon flow c rest then none
    else if endsPlain flow c rest then stop
    else readPlain flow indent (c :: (gap.text.reverse ++ before)) .none (position.next c) rest

inductive QuotedState where
  | text
  /-- after a backslash -/
  | escape
  /-- after a quote, which may be the first of a doubled one -/
  | quote
  /-- before some more digits of a character's number -/
  | number (digits value : Nat)

def escaped? : Char → Option Char
  | '0' => some '\x00'
  | 'a' => some '\x07'
  | 'b' => some '\x08'
  | 't' | '\t' => some '\t'
  | 'n' => some '\n'
  | 'v' => some '\x0b'
  | 'f' => some '\x0c'
  | 'r' => some '\r'
  | 'e' => some '\x1b'
  | ' ' => some ' '
  | '"' => some '"'
  | '/' => some '/'
  | '\\' => some '\\'
  | 'N' => some '\u0085'
  | '_' => some '\u00a0'
  | 'L' => some '\u2028'
  | 'P' => some '\u2029'
  | _ => none

/-- The number of digits that a backslash and a letter announce. -/
def announcedDigits? : Char → Option Nat
  | 'x' => some 2
  | 'u' => some 4
  | 'U' => some 8
  | _ => none

def charOfNumber? (n : Nat) : Option Char := if n.isValidChar then some (Char.ofNat n) else none

/-- Read the rest of a quoted scalar, whose text so far is reversed in `before`. A single quote is
written twice inside single quotes; inside double ones a backslash escapes. -/
def readQuoted (mark : Char) (state : QuotedState) (before : List Char) (gap : Gap)
    (position : Position) : List Char → Option ScalarReading
  | [] =>
    match state with
    | .quote => some ⟨String.ofList before.reverse, [], position, false⟩
    | _ => none
  | c :: rest =>
    let next := position.next c
    match state with
    | .quote =>
      if c = mark ∧ mark = '\'' then readQuoted mark .text (c :: before) .none next rest
      else some ⟨String.ofList before.reverse, c :: rest, position, false⟩
    | .escape =>
      if isBreak c then readQuoted mark .text before ⟨[], [], true⟩ position.nextLine rest
      else match escaped? c, announcedDigits? c with
        | some d, _ => readQuoted mark .text (d :: before) .none next rest
        | none, some digits => readQuoted mark (.number digits 0) before .none next rest
        | none, none => none
    | .number digits value =>
      match digitValue? c with
      | none => none
      | some digit =>
        let value := 16 * value + digit
        if digits ≤ 1 then
          match charOfNumber? value with
          | some d => readQuoted mark .text (d :: before) .none next rest
          | none => none
        else readQuoted mark (.number (digits - 1) value) before .none next rest
    | .text =>
      if isBreak c then readQuoted mark .text before (gap.addBreak c) position.nextLine rest
      else if isSpace c then readQuoted mark .text before (gap.addSpace c) next rest
      else if position.column = 0 ∧ atDocumentMark (c :: rest) then none
      else
        let before := gap.text.reverse ++ before
        if c = mark then readQuoted mark .quote before .none next rest
        else if c = '\\' ∧ mark = '"' then readQuoted mark .escape before .none next rest
        else readQuoted mark .text (c :: before) .none next rest

end DataAccess.Yaml
