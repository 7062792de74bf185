import DataAccess.Json.Literal
import DataAccess.Number.Unsigned

/-! The parts of a JSON text that hold no others: blanks, the three words, strings and numbers.
Blanks are the four of the grammar. Strings must be closed, hold no raw control character, and
spell characters beyond the sixteen-bit range as a pair of surrogates; a surrogate without its
partner is refused. -/
namespace DataAccess.JsonReader

def isBlank (c : Char) : Bool := c == ' ' || c == '\t' || c == '\n' || c == '\r'

def escape? : Char → Option Char
  | '"' => some '"'
  | '\\' => some '\\'
  | '/' => some '/'
  | 'b' => some '\x08'
  | 'f' => some '\x0c'
  | 'n' => some '\n'
  | 'r' => some '\r'
  | 't' => some '\t'
  | _ => none

def isHighSurrogate (unit : Nat) : Bool := 0xD800 ≤ unit && unit ≤ 0xDBFF

def isLowSurrogate (unit : Nat) : Bool := 0xDC00 ≤ unit && unit ≤ 0xDFFF

inductive StringState where
  | text
  /-- behind a backslash -/
  | escape
  /-- a sixteen-bit unit, perhaps behind a high surrogate, of which so many digits are due -/
  | unit (high : Option Nat) (value due : Nat)
  /-- behind a high surrogate -/
  | high (unit : Nat)
  /-- behind a high surrogate and a backslash -/
  | highEscape (unit : Nat)

/-- A whole unit: the character that it completes, or that a pair has begun, or nothing if it has
no partner. -/
def completeUnit? (unit : Nat) : Option Nat → Option (Option Char)
  | some high =>
    if isLowSurrogate unit then
      some (some (Char.ofNat (0x10000 + (high - 0xD800) * 0x400 + (unit - 0xDC00))))
    else none
  | none =>
    if isLowSurrogate unit then none
    else if isHighSurrogate unit then some none
    else some (some (Char.ofNat unit))

/-- The failure in front of a character that is no digit of a unit. A unit is taken as a whole, so
the end of the text comes first if fewer bytes than are due are left. -/
def noUnit (due : Nat) (text : List Char) : JsonFailure :=
  if utf8Size text < due then JsonFault.endInString.within [] 0
  else JsonFault.unknownEscape.within text due

/-- Read on in a string behind its opening quote: the characters that are left of it, and what
follows the closing quote. -/
def readString : StringState → List Char → Except JsonFailure (List Char × List Char)
  | _, [] => .error (JsonFault.endInString.within [] 0)
  | .text, c :: rest =>
    if c = '"' then .ok ([], rest)
    else if c = '\\' then readString .escape rest
    else if c.toNat < 0x20 then .error (JsonFault.controlCharacter.facing (c :: rest))
    else (readString .text rest).map fun (chars, rest) => (c :: chars, rest)
  | .escape, c :: rest =>
    if c = 'u' then readString (.unit none 0 4) rest
    else
      match escape? c with
      | some c => (readString .text rest).map fun (chars, rest) => (c :: chars, rest)
      | none => .error (JsonFault.unknownEscape.facing (c :: rest))
  | .unit high value due, c :: rest =>
    match digitValue? c with
    | none => .error (noUnit due (c :: rest))
    | some digit =>
      let value := value * 16 + digit
      if 1 < due then readString (.unit high value (due - 1)) rest
      else
        match completeUnit? value high with
        | some (some c) => (readString .text rest).map fun (chars, rest) => (c :: chars, rest)
        | some none => readString (.high value) rest
        | none => .error (JsonFault.loneSurrogate.within rest 0)
  | .high unit, c :: rest =>
    if c = '\\' then readString (.highEscape unit) rest
    else .error (JsonFault.unfinishedPair.facing (c :: rest))
  | .highEscape unit, c :: rest =>
    if c = 'u' then readString (.unit (some unit) 0 4) rest
    else .error (JsonFault.unfinishedPair.facing (c :: rest))

def readWord : List Char → List Char → Except JsonFailure (List Char)
  | [], text => .ok text
  | _ :: _, [] => .error (JsonFault.endInValue.within [] 0)
  | letter :: word, c :: rest =>
    if c = letter then readWord word rest else .error (JsonFault.unknownWord.facing (c :: rest))

/-- Read a value that is no container from a text that starts with no blank. -/
def readScalar : List Char → Except JsonFailure (Json × List Char)
  | [] => .error (JsonFault.endInValue.within [] 0)
  | 'n' :: rest => (readWord ['u', 'l', 'l'] rest).map fun rest => (.null, rest)
  | 't' :: rest => (readWord ['r', 'u', 'e'] rest).map fun rest => (.bool true, rest)
  | 'f' :: rest => (readWord ['a', 'l', 's', 'e'] rest).map fun rest => (.bool false, rest)
  | '"' :: rest =>
    (readString .text rest).map fun (chars, rest) => (.string (String.ofList chars), rest)
  | c :: rest =>
    if c = '-' ∨ c.isDigit then
      (JsonNumber.read (c :: rest)).map fun (number, rest) => (.number number, rest)
    else .error (JsonFault.noValue.facing (c :: rest))

end DataAccess.JsonReader
