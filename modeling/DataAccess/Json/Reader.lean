import DataAccess.Json.Describe
import DataAccess.Json.Scalar

/-! Reading JSON. The reader takes one part of the text at a time and keeps the containers that are
still open on a stack, at most `maxDepth` of them. A text is one value with nothing behind it. One
key is reserved: an object that begins with it stands for the value of a JSON text that it holds.
A text that is refused is refused at its first fault. -/
namespace DataAccess

structure JsonMember where
  key : String
  value : Json
  /-- whether the value is that of an embedded text -/
  embedded : Bool

/-- A JSON text as read. An outermost object may keep its members as they are written, repeated
keys included. -/
inductive JsonDocument where
  | object (members : List JsonMember)
  | other (value : Json)

def JsonMember.toObject (members : List JsonMember) : Json :=
  .ofMembers (members.map fun member => (member.key, member.value))

def JsonDocument.value : JsonDocument → Json
  | object members => JsonMember.toObject members
  | other value => value

namespace JsonReader

/-- The key of an object that holds a JSON text in place of a value. -/
def embeddedTextKey : String := "$serde_json::private::RawValue"

/-- Containers may be nested this deep. -/
def maxDepth : Nat := 127

structure Mode where
  /-- reads an embedded text -/
  readText : String → Except JsonError Json
  /-- whether an outermost object keeps its members; no key is reserved in it then -/
  keepsMembers : Bool

/-- A container that waits for the value being read. What is complete stands in reverse order. -/
inductive Frame where
  | item (items : List Json)
  | member (members : List JsonMember) (key : String)

/-- What is expected next, with the containers that are open. -/
inductive State where
  | value (frames : List Frame)
  | firstItem (frames : List Frame)
  /-- an item behind a comma -/
  | item (items : List Json) (frames : List Frame)
  | afterItem (items : List Json) (frames : List Frame)
  | firstKey (frames : List Frame)
  /-- a key behind a comma -/
  | key (members : List JsonMember) (frames : List Frame)
  | colon (members : List JsonMember) (key : String) (frames : List Frame)
  | afterMember (members : List JsonMember) (frames : List Frame)
  /-- the text of an object that begins with the reserved key -/
  | embeddedText (frames : List Frame)
  /-- the end of such an object -/
  | afterText (value : Json) (frames : List Frame)
  | done (document : JsonDocument)

/-- What is wrong when nothing that is expected follows. -/
def State.fault (text : List Char) : State → JsonFault
  | firstItem _ | afterItem _ _ => if text.isEmpty then .endInList else .noListComma
  | firstKey _ => if text.isEmpty then .endInObject else .keyNotText
  | key _ _ =>
    match text with
    | [] => .endInValue
    | '}' :: _ => .trailingComma
    | _ => .keyNotText
  | colon _ _ _ => if text.isEmpty then .endInObject else .noColon
  | afterMember _ _ => if text.isEmpty then .endInObject else .noObjectComma
  | afterText _ _ =>
    match text with
    | [] => .endInObject
    | ',' :: _ => .trailingComma
    | _ => .trailingCharacters
  | value _ | item _ _ | embeddedText _ => if text.isEmpty then .endInValue else .noValue
  | done _ => .trailingCharacters

/-- Hand a finished value to the innermost open container. -/
def deliver (value : Json) (embedded : Bool) : List Frame → State
  | [] => .done (.other value)
  | .item items :: frames => .afterItem (value :: items) frames
  | .member members key :: frames => .afterMember (⟨key, value, embedded⟩ :: members) frames

def closeObject (mode : Mode) (members : List JsonMember) (frames : List Frame) : State :=
  if mode.keepsMembers ∧ frames.isEmpty then .done (.object members.reverse)
  else deliver (JsonMember.toObject members.reverse) false frames

def beginValue (frames : List Frame) (text : List Char) : Except JsonFailure (State × List Char) :=
  match text with
  | '[' :: rest =>
    if frames.length < maxDepth then .ok (.firstItem frames, rest)
    else .error (JsonFault.tooDeep.facing text)
  | '{' :: rest =>
    if frames.length < maxDepth then .ok (.firstKey frames, rest)
    else .error (JsonFault.tooDeep.facing text)
  | _ => (readScalar text).map fun (value, rest) => (deliver value false frames, rest)

def afterColon (mode : Mode) (members : List JsonMember) (key : String) (frames : List Frame) :
    State :=
  if key = embeddedTextKey ∧ members.isEmpty ∧ ¬(mode.keepsMembers ∧ frames.isEmpty) then
    .embeddedText frames
  else .value (.member members key :: frames)

/-- Read the value of the reserved key, which has to be a text. -/
def readEmbedded (mode : Mode) (text : List Char) : Except JsonFailure (Json × List Char) :=
  match text with
  | '[' :: _ => .error ((JsonFault.noEmbeddedText (Json.array []).describe).within text 0)
  | '{' :: _ => .error ((JsonFault.noEmbeddedText (Json.object []).describe).within text 0)
  | _ =>
    match readScalar text with
    | .ok (.string inner, rest) => ((mode.readText inner).map (·, rest)).mapError .embedded
    | .ok (value, rest) => .error ((JsonFault.noEmbeddedText value.describe).within rest 0)
    | .error failure => .error failure

/-- Read one part of a text that starts with no blank. -/
def step (mode : Mode) (state : State) (text : List Char) :
    Except JsonFailure (State × List Char) :=
  match state, text with
  | .value frames, text => beginValue frames text
  | .firstItem frames, ']' :: rest => .ok (deliver (.array []) false frames, rest)
  | .firstItem frames, c :: rest => beginValue (.item [] :: frames) (c :: rest)
  | .item _ _, ']' :: _ => .error (JsonFault.trailingComma.facing text)
  | .item items frames, text => beginValue (.item items :: frames) text
  | .afterItem items frames, ',' :: rest => .ok (.item items frames, rest)
  | .afterItem items frames, ']' :: rest => .ok (deliver (.array items.reverse) false frames, rest)
  | .firstKey frames, '}' :: rest => .ok (closeObject mode [] frames, rest)
  | .firstKey frames, '"' :: rest =>
    (readString .text rest).map fun (key, rest) => (.colon [] (String.ofList key) frames, rest)
  | .key members frames, '"' :: rest =>
    (readString .text rest).map fun (key, rest) => (.colon members (String.ofList key) frames, rest)
  | .colon members key frames, ':' :: rest => .ok (afterColon mode members key frames, rest)
  | .embeddedText frames, text =>
    (readEmbedded mode text).map fun (value, rest) => (.afterText value frames, rest)
  | .afterText value frames, '}' :: rest => .ok (deliver value true frames, rest)
  | .afterMember members frames, ',' :: rest => .ok (.key members frames, rest)
  | .afterMember members frames, '}' :: rest => .ok (closeObject mode members frames, rest)
  | state, text => .error ((state.fault text).facing text)

/-- Read a text to its end, with one unit of fuel for each part and one for the end. -/
def readWith (mode : Mode) : Nat → State → List Char → Except JsonFailure JsonDocument
  | 0, state, text => .error ((state.fault text).facing text)
  | fuel + 1, state, text =>
    match state, text.dropWhile isBlank with
    | .done document, [] => .ok document
    | state, text => do
      let (state, rest) ← step mode state text
      readWith mode fuel state rest

/-- Read a text. A part takes at least one character, so the length and one is fuel enough. -/
def readDocument (mode : Mode) (text : String) : Except JsonError JsonDocument :=
  let chars := text.toList
  (readWith mode (chars.length + 1) (.value []) chars).mapError (·.toError chars)

def valueWithin : Nat → String → Except JsonError Json
  | 0, _ => .error ⟨.tooDeep, ⟨1, 0⟩⟩
  | depth + 1, text => (readDocument ⟨valueWithin depth, false⟩ text).map (·.value)

end JsonReader

/-- Read a JSON text, or say what is wrong with it. An embedded text is shorter than the text
around it, so the length bounds how deep texts are embedded. -/
def Json.ofText (text : String) : Except JsonError Json :=
  JsonReader.valueWithin (text.length + 1) text

def Json.ofText? (text : String) : Option Json := (Json.ofText text).toOption

def JsonDocument.ofText? (text : String) : Option JsonDocument :=
  (JsonReader.readDocument ⟨Json.ofText, true⟩ text).toOption

end DataAccess
