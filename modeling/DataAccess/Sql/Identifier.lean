/-! Identifiers that may stand in a statement: segments of ASCII letters, digits and underscores,
none starting with a digit, joined by single dots. Where a star is allowed it may only be the last
segment. -/
namespace DataAccess

def isSegmentStart (c : Char) : Bool := c.isAlpha || c == '_'

def isSegmentChar (c : Char) : Bool := c.isAlphanum || c == '_'

def isSegment : List Char → Bool
  | [] => false
  | c :: rest => isSegmentStart c && rest.all isSegmentChar

/-- Check the segments of an identifier in order; with `star`, a `*` closes it. -/
def areSegments (star : Bool) : List (List Char) → Bool
  | [] => true
  | segment :: rest =>
    if star && segment == ['*'] then rest.isEmpty
    else isSegment segment && areSegments star rest

/-- Whether a text is a plain dotted identifier, or with `star` one that may end in a star. -/
def isIdentifier (text : String) (star : Bool) : Bool :=
  areSegments star (text.toList.splitOn '.')

inductive IdentifierKind where
  | table
  | column
deriving DecidableEq

def IdentifierKind.name : IdentifierKind → String
  | table => "table"
  | column => "column"

inductive QueryError where
  | invalidIdentifier (kind : IdentifierKind) (text : String)
  | noColumns
deriving DecidableEq

def QueryError.message : QueryError → String
  | invalidIdentifier kind text => "Invalid " ++ kind.name ++ " identifier: " ++ text
  | noColumns => "No columns to write"

def checkIdentifier (text : String) (kind : IdentifierKind) : Except QueryError Unit :=
  if isIdentifier text false then .ok () else .error (.invalidIdentifier kind text)

end DataAccess
