import DataAccess.Yaml.Token

/-! Documents of YAML as trees. A text holds one document at most; where a value may stand and none
does, the value is an empty plain scalar. -/
namespace DataAccess.Yaml

inductive Node where
  | scalar (plain : Bool) (text : String)
  | sequence (items : List Node)
  | mapping (entries : List (Node × Node))

instance : Inhabited Node := ⟨.scalar true ""⟩

/-- The value that is not written. -/
def Node.absent : Node := .scalar true ""

def comesNext (tokens : List Token) (candidates : List Token) : Bool :=
  match tokens with
  | token :: _ => candidates.contains token
  | [] => false

/-- Go behind the comma before an item, which only the first item and the end do without. -/
def afterComma (first : Bool) (closing : Token) (tokens : List Token) : Option (List Token) :=
  match first, tokens with
  | true, tokens => some tokens
  | false, .comma :: rest => some rest
  | false, tokens => if comesNext tokens [closing] then some tokens else none

mutual

/-- Read a node. Outside brackets it may be a block, and where `dashes` says so a sequence that does
not stand further to the right than its key. -/
def node (block dashes : Bool) (tokens : List Token) : Nat → Option (Node × List Token)
  | 0 => none
  | fuel + 1 =>
    match tokens with
    | .scalar plain text :: rest => some (.scalar plain text, rest)
    | .flowSequence :: rest => do
      let (items, rest) ← flowItems true rest fuel
      return (.sequence items, rest)
    | .flowMapping :: rest => do
      let (entries, rest) ← flowEntries true rest fuel
      return (.mapping entries, rest)
    | .blockSequence :: rest => do
      if !block then none
      let (items, rest) ← blockItems true rest fuel
      return (.sequence items, rest)
    | .blockMapping :: rest => do
      if !block then none
      let (entries, rest) ← blockEntries rest fuel
      return (.mapping entries, rest)
    | .item :: _ => do
      if !dashes then none
      let (items, rest) ← blockItems false tokens fuel
      return (.sequence items, rest)
    | _ => none

/-- Read a node, which is absent where one of some tokens comes next. -/
def nodeUnless (stops : List Token) (block dashes : Bool) (tokens : List Token) :
    Nat → Option (Node × List Token)
  | 0 => none
  | fuel + 1 =>
    if comesNext tokens stops then some (.absent, tokens) else node block dashes tokens fuel

def valueUnless (stops : List Token) (block : Bool) (tokens : List Token) :
    Nat → Option (Node × List Token)
  | 0 => none
  | fuel + 1 =>
    match tokens with
    | .value :: rest => nodeUnless stops block block rest fuel
    | _ => some (.absent, tokens)

/-- Read the items of a block, which is `closed` by a token of its own or just ends. -/
def blockItems (closed : Bool) (tokens : List Token) : Nat → Option (List Node × List Token)
  | 0 => none
  | fuel + 1 =>
    match tokens with
    | .item :: rest => do
      let stops := if closed then [.item, .blockEnd] else [.item, .key, .value, .blockEnd]
      let (item, rest) ← nodeUnless stops true false rest fuel
      let (items, rest) ← blockItems closed rest fuel
      return (item :: items, rest)
    | .blockEnd :: rest => if closed then some ([], rest) else some ([], tokens)
    | _ => if closed then none else some ([], tokens)

def blockEntries (tokens : List Token) : Nat → Option (List (Node × Node) × List Token)
  | 0 => none
  | fuel + 1 =>
    match tokens with
    | .key :: rest => do
      let stops := [.key, .value, .blockEnd]
      let (key, rest) ← nodeUnless stops true true rest fuel
      let (value, rest) ← valueUnless stops true rest fuel
      let (entries, rest) ← blockEntries rest fuel
      return ((key, value) :: entries, rest)
    | .blockEnd :: rest => some ([], rest)
    | _ => none

/-- Read the items between brackets; an item with a key is a mapping of one entry. The token that
takes the place of a key after a question mark is passed over. -/
def flowItems (first : Bool) (tokens : List Token) : Nat → Option (List Node × List Token)
  | 0 => none
  | fuel + 1 => do
    let tokens ← afterComma first .flowSequenceEnd tokens
    match tokens with
    | .flowSequenceEnd :: rest => some ([], rest)
    | .key :: rest => do
      let stops := [.comma, .flowSequenceEnd]
      let keyless := comesNext rest (.value :: stops)
      let (key, rest) ← nodeUnless (.value :: stops) false false rest fuel
      let (value, rest) ← valueUnless stops false (if keyless then rest.drop 1 else rest) fuel
      let (items, rest) ← flowItems false rest fuel
      return (.mapping [(key, value)] :: items, rest)
    | tokens => do
      let (item, rest) ← node false false tokens fuel
      let (items, rest) ← flowItems false rest fuel
      return (item :: items, rest)

/-- Read the entries between braces; an entry may do without a value. -/
def flowEntries (first : Bool) (tokens : List Token) :
    Nat → Option (List (Node × Node) × List Token)
  | 0 => none
  | fuel + 1 => do
    let tokens ← afterComma first .flowMappingEnd tokens
    match tokens with
    | .flowMappingEnd :: rest => some ([], rest)
    | .key :: rest => do
      let stops := [.comma, .flowMappingEnd]
      let (key, rest) ← nodeUnless (.value :: stops) false false rest fuel
      let (value, rest) ← valueUnless stops false rest fuel
      let (entries, rest) ← flowEntries false rest fuel
      return ((key, value) :: entries, rest)
    | tokens => do
      let (key, rest) ← node false false tokens fuel
      let (entries, rest) ← flowEntries false rest fuel
      return ((key, .absent) :: entries, rest)

end

def root (tokens : List Token) : Option (Node × List Token) :=
  node true false tokens (4 * tokens.length + 4)

/-- Read the document of a text, whose root may be absent only behind a mark or in an empty text. -/
def document (tokens : List Token) : Option (Node × List Token) :=
  match tokens with
  | [] => some (.absent, [])
  | .documentStart :: rest =>
    if rest.isEmpty || comesNext rest [.documentStart, .documentEnd] then some (.absent, rest)
    else root rest
  | tokens => root tokens

def document? (text : String) : Option Node := do
  let (root, rest) ← document (← tokens? text.toList)
  if (rest.dropWhile (· == .documentEnd)).isEmpty then some root else none

end DataAccess.Yaml
