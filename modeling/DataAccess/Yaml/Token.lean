import DataAccess.Yaml.Scalar

/-! Tokens of a YAML document. Outside brackets the structure follows the columns: a block opens
where its first item or key stands further to the right than the block around it, and closes before
a token further to the left. Whether a scalar or a bracket is a key is known only at the colon
behind it, so a place is kept for the key in front of everything that may be one. -/
namespace DataAccess.Yaml

inductive Token where
  | documentStart
  | documentEnd
  | blockSequence
  | blockMapping
  | blockEnd
  | flowSequence
  | flowSequenceEnd
  | flowMapping
  | flowMappingEnd
  /-- the dash before an item of a sequence -/
  | item
  | comma
  | key
  | value
  | scalar (plain : Bool) (text : String)
deriving DecidableEq

/-- Something that is a key if a colon follows. -/
structure PossibleKey where
  position : Position
  /-- the place kept for the key among the tokens -/
  place : Nat
  /-- whether it stands where the block goes on with a key -/
  required : Bool

/-- The longest key that goes without a question mark, in bytes. -/
def longestKey : Nat := 1024

/-- A scanner in the middle of a document. -/
structure Scanner where
  rest : List Char
  position : Position
  /-- the columns of the open blocks, innermost first -/
  blocks : List Nat
  /-- the possible key of this level of brackets -/
  key : Option PossibleKey
  /-- the possible keys of the levels around it, innermost first -/
  outer : List (Option PossibleKey)
  /-- whether a key may begin here -/
  keyAllowed : Bool
  /-- the tokens so far, in places; a place kept for a key may stay empty -/
  places : Array (List Token)

namespace Scanner

def ofChars (text : List Char) : Scanner := ⟨text, .start, [], none, [], true, #[]⟩

def inFlow (scanner : Scanner) : Bool := !scanner.outer.isEmpty

def isAtBlock (scanner : Scanner) (column : Nat) : Bool := scanner.blocks.head? == some column

/-- The column that the lines of a scalar must reach. -/
def scalarIndent (scanner : Scanner) : Nat :=
  match scanner.blocks with
  | [] => 0
  | column :: _ => column + 1

def emit (scanner : Scanner) (tokens : List Token) : Scanner :=
  { scanner with places := scanner.places.push tokens }

def skip (scanner : Scanner) (n : Nat) : Scanner :=
  { scanner with rest := scanner.rest.drop n, position := scanner.position.advance n }

/-- Go on with the next token: behind blanks, comments and line breaks. Outside brackets a key may
begin on a new line, and where one may, a tab is no blank. A byte order mark is a blank at the start
of a line, where it takes the column of a character. -/
def skipBlanks (flow keyAllowed comment : Bool) (position : Position) :
    List Char → Bool × Position × List Char
  | [] => (keyAllowed, position, [])
  | c :: rest =>
    if isBreak c then skipBlanks flow (keyAllowed || !flow) false position.nextLine rest
    else if comment || c == '#' then skipBlanks flow keyAllowed true (position.next c) rest
    else if c == '\ufeff' && position.column == 0 then
      skipBlanks flow keyAllowed false (position.next c) rest
    else if c == ' ' || (c == '\t' && (flow || !keyAllowed)) then
      skipBlanks flow keyAllowed false (position.next c) rest
    else (keyAllowed, position, c :: rest)

def toToken (scanner : Scanner) : Scanner :=
  let (keyAllowed, position, rest) :=
    skipBlanks scanner.inFlow scanner.keyAllowed false scanner.position scanner.rest
  { scanner with keyAllowed, position, rest }

/-- Give up a possible key; a required one must become a key. -/
def giveUp : Option PossibleKey → Option (Option PossibleKey)
  | some key => if key.required then none else some none
  | none => some none

def expire (position : Position) : Option PossibleKey → Option (Option PossibleKey)
  | some key =>
    if key.position.line < position.line ∨ key.position.index + longestKey < position.index then
      giveUp (some key)
    else some (some key)
  | none => some none

def expireKeys (scanner : Scanner) : Option Scanner := do
  let key ← expire scanner.position scanner.key
  let outer ← scanner.outer.mapM (expire scanner.position)
  return { scanner with key, outer }

/-- Close the blocks further to the right than a column. -/
def closeBlocks (scanner : Scanner) (column : Nat) : Scanner :=
  if scanner.inFlow then scanner
  else
    let closed := scanner.blocks.takeWhile (column < ·)
    { scanner.emit (closed.map fun _ => .blockEnd) with
      blocks := scanner.blocks.dropWhile (column < ·) }

def closeAll (scanner : Scanner) : Scanner :=
  if scanner.inFlow then scanner
  else { scanner.emit (scanner.blocks.map fun _ => .blockEnd) with blocks := [] }

def opensBlock (scanner : Scanner) (column : Nat) : Bool :=
  !scanner.inFlow && (match scanner.blocks with | [] => true | innermost :: _ => innermost < column)

def dropKey (scanner : Scanner) : Option Scanner := do
  return { scanner with key := ← giveUp scanner.key }

/-- Keep a place for a key, if one may begin here. -/
def keepPlace (scanner : Scanner) : Option Scanner :=
  if scanner.keyAllowed then do
    let scanner ← scanner.dropKey
    let required := !scanner.inFlow && scanner.isAtBlock scanner.position.column
    return { scanner.emit [] with
      key := some ⟨scanner.position, scanner.places.size, required⟩ }
  else some scanner

/-- Open a block of a kind at a column, if one opens there. -/
def openBlock (scanner : Scanner) (kind : Token) (column : Nat) : Scanner :=
  if scanner.opensBlock column then
    { scanner.emit [kind] with blocks := column :: scanner.blocks }
  else scanner

def documentMark (scanner : Scanner) (token : Token) : Option Scanner := do
  let scanner ← scanner.closeAll.dropKey
  return { (scanner.emit [token]).skip 3 with keyAllowed := false }

def openBracket (scanner : Scanner) (token : Token) : Option Scanner := do
  let scanner ← scanner.keepPlace
  return { (scanner.emit [token]).skip 1 with
    key := none, outer := scanner.key :: scanner.outer, keyAllowed := true }

def closeBracket (scanner : Scanner) (token : Token) : Option Scanner := do
  let scanner ← scanner.dropKey
  let (key, outer) := match scanner.outer with
    | [] => (scanner.key, [])
    | key :: outer => (key, outer)
  return { (scanner.emit [token]).skip 1 with key, outer, keyAllowed := false }

def comma (scanner : Scanner) : Option Scanner := do
  let scanner ← scanner.dropKey
  return { (scanner.emit [.comma]).skip 1 with keyAllowed := true }

/-- An indicator that may open a block: a dash or a question mark. -/
def opening (scanner : Scanner) (token kind : Token) (thenAllowed : Bool) : Option Scanner := do
  if !scanner.inFlow && !scanner.keyAllowed then none
  let scanner ← (scanner.openBlock kind scanner.position.column).dropKey
  return { (scanner.emit [token]).skip 1 with keyAllowed := thenAllowed }

/-- A colon: what stands before it is a key if it can be one, and else the key is empty. -/
def colon (scanner : Scanner) : Option Scanner :=
  match scanner.key with
  | some key =>
    let column := key.position.column
    let opens := scanner.opensBlock column
    let tokens := if opens then [Token.blockMapping, .key] else [.key]
    let blocks := if opens then column :: scanner.blocks else scanner.blocks
    let places := scanner.places.setIfInBounds key.place tokens
    some { ({ scanner with places, blocks }.emit [.value]).skip 1 with
      key := none, keyAllowed := false }
  | none =>
    if !scanner.inFlow && !scanner.keyAllowed then none
    else
      let scanner := scanner.openBlock .blockMapping scanner.position.column
      some { (scanner.emit [.value]).skip 1 with keyAllowed := !scanner.inFlow }

def scalar (scanner : Scanner) (plain : Bool) (reading : ScalarReading) : Scanner :=
  { scanner.emit [.scalar plain reading.text] with
    rest := reading.rest, position := reading.position, keyAllowed := reading.endsLine }

def quoted (scanner : Scanner) (mark : Char) : Option Scanner := do
  let scanner ← scanner.keepPlace
  let reading ←
    readQuoted mark .text [] .none (scanner.position.advance 1) (scanner.rest.drop 1)
  return scanner.scalar false reading

def plain (scanner : Scanner) : Option Scanner := do
  let scanner ← scanner.keepPlace
  let reading ←
    readPlain scanner.inFlow scanner.scalarIndent [] .none scanner.position scanner.rest
  return scanner.scalar true reading

/-- The characters that begin no plain scalar, dashes, question marks and colons apart. Anchors,
aliases, tags, directives and scalars in block form are not read. -/
def isIndicator (c : Char) : Bool :=
  isSpace c || isFlowMark c || ['#', '&', '*', '!', '|', '>', '%', '@', '`'].contains c

def token (scanner : Scanner) (c : Char) (rest : List Char) : Option Scanner :=
  let wordEnds := atWordEnd rest
  if scanner.position.column == 0 && atDocumentMark (c :: rest) then
    scanner.documentMark (if c == '-' then .documentStart else .documentEnd)
  else if c == '[' then scanner.openBracket .flowSequence
  else if c == '\x7b' then scanner.openBracket .flowMapping
  else if c == ']' then scanner.closeBracket .flowSequenceEnd
  else if c == '\x7d' then scanner.closeBracket .flowMappingEnd
  else if c == ',' then scanner.comma
  else if c == '-' && wordEnds then scanner.opening .item .blockSequence true
  else if c == '?' && (scanner.inFlow || wordEnds) then
    scanner.opening .key .blockMapping (!scanner.inFlow)
  else if c == ':' && (scanner.inFlow || wordEnds) then scanner.colon
  else if c == '\'' || c == '"' then scanner.quoted c
  else if isIndicator c then none
  else scanner.plain

def tokens (scanner : Scanner) : Nat → Option (List Token)
  | 0 => none
  | fuel + 1 => do
    let scanner ← scanner.toToken.expireKeys
    match scanner.rest with
    | [] =>
      let scanner ← scanner.closeAll.dropKey
      return scanner.places.toList.flatten
    | c :: rest => do
      let scanner ← (scanner.closeBlocks scanner.position.column).token c rest
      scanner.tokens fuel

end Scanner

def isPrintable (c : Char) : Bool :=
  let n := c.toNat
  c == '\t' || c == '\n' || c == '\r' || (0x20 ≤ n && n ≤ 0x7E) || n == 0x85 ||
    (0xA0 ≤ n && n ≤ 0xFFFD) || 0x10000 ≤ n

/-- The tokens of a text. Every token takes a character, so there are no more than that. -/
def tokens? (text : List Char) : Option (List Token) :=
  if text.all isPrintable then
    let chars := lineFeeds text
    (Scanner.ofChars chars).tokens (chars.length + 1)
  else none

end DataAccess.Yaml
