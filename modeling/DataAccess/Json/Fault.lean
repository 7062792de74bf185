/-! What is wrong with a text that is no JSON, and where. A reader works on what is left of the
text, so a failure says how many bytes are left behind the place of the fault; the place itself is
a line and a column in bytes, found from the whole text. -/
namespace DataAccess

inductive JsonFault where
  | endInValue
  | endInList
  | endInObject
  | endInString
  | noValue
  | unknownWord
  | noColon
  /-- a list goes on without a comma -/
  | noListComma
  /-- an object goes on without a comma -/
  | noObjectComma
  | keyNotText
  | trailingComma
  | trailingCharacters
  | malformedNumber
  | numberOutOfRange
  | unknownEscape
  /-- a surrogate that does not follow, or is not followed by, its partner -/
  | loneSurrogate
  /-- a surrogate that nothing escaped follows -/
  | unfinishedPair
  | controlCharacter
  /-- containers are nested too deep -/
  | tooDeep
  /-- something described so stands in place of an embedded text -/
  | noEmbeddedText (found : String)
deriving DecidableEq

def JsonFault.message : JsonFault → String
  | endInValue => "EOF while parsing a value"
  | endInList => "EOF while parsing a list"
  | endInObject => "EOF while parsing an object"
  | endInString => "EOF while parsing a string"
  | noValue => "expected value"
  | unknownWord => "expected ident"
  | noColon => "expected `:`"
  | noListComma => "expected `,` or `]`"
  | noObjectComma => "expected `,` or `\x7d`"
  | keyNotText => "key must be a string"
  | trailingComma => "trailing comma"
  | trailingCharacters => "trailing characters"
  | malformedNumber => "invalid number"
  | numberOutOfRange => "number out of range"
  | unknownEscape => "invalid escape"
  | loneSurrogate => "lone leading surrogate in hex escape"
  | unfinishedPair => "unexpected end of hex escape"
  | controlCharacter => "control character (\\u0000-\\u001F) found while parsing a string"
  | tooDeep => "recursion limit exceeded"
  | noEmbeddedText found => "invalid type: " ++ found ++ ", expected raw value"

structure TextPlace where
  /-- from one -/
  line : Nat
  /-- the bytes of the line in front of the place -/
  column : Nat
deriving DecidableEq

/-- Move some bytes on from a place at which a rest of the text starts. -/
def TextPlace.advance (place : TextPlace) : List Char → Nat → TextPlace
  | [], _ => place
  | c :: rest, bytes =>
    if bytes < c.utf8Size then { place with column := place.column + bytes }
    else
      let next := if c = '\n' then ⟨place.line + 1, 0⟩
        else { place with column := place.column + c.utf8Size }
      next.advance rest (bytes - c.utf8Size)

structure JsonError where
  fault : JsonFault
  place : TextPlace
deriving DecidableEq

def JsonError.message (error : JsonError) : String :=
  error.fault.message ++ " at line " ++ toString error.place.line ++ " column " ++
    toString error.place.column

inductive JsonFailure where
  /-- a fault with so many bytes of the text behind its place -/
  | here (fault : JsonFault) (behind : Nat)
  /-- an embedded text is malformed; the place is one in that text -/
  | embedded (error : JsonError)

def utf8Size : List Char → Nat
  | [] => 0
  | c :: rest => c.utf8Size + utf8Size rest

namespace JsonFault

/-- The failure at the place so many bytes into the rest of a text, or at its end. -/
def within (fault : JsonFault) (rest : List Char) (bytes : Nat) : JsonFailure :=
  .here fault (utf8Size rest - bytes)

/-- The failure that the first byte of a rest shows, or that it is empty. -/
def facing (fault : JsonFault) (rest : List Char) : JsonFailure := fault.within rest 1

end JsonFault

def JsonFailure.toError (text : List Char) : JsonFailure → JsonError
  | here fault behind => ⟨fault, TextPlace.advance ⟨1, 0⟩ text (utf8Size text - behind)⟩
  | embedded error => error

end DataAccess
