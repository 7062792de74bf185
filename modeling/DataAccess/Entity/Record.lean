import DataAccess.Error
import DataAccess.Json.Reread

/-! Records: decoded rows by column name, and their decoding into typed fields. -/
namespace DataAccess

abbrev Record := Dict Value

/-- What a field of a shape holds. -/
inductive FieldType where
  | int64
  | uint8
  | float
  | text
  | texts
  | flag
deriving DecidableEq

/-- What an absent or null column means for a field. -/
inductive Presence where
  /-- both are errors -/
  | required
  /-- both leave the field empty -/
  | optional
  /-- an absent column leaves the field empty, a null is an error -/
  | defaulted
deriving DecidableEq

structure Field where
  name : String
  type : FieldType
  presence : Presence

inductive FieldValue where
  | int (value : Int)
  | float (value : Binary64)
  | text (value : String)
  | texts (values : List String)
  | flag (value : Bool)

namespace FieldType

def expectation : FieldType → String
  | int64 => "i64"
  | uint8 => "u8"
  | float => "f64"
  | text => "a string"
  | texts => "a sequence"
  | flag => "a boolean"

def readInteger (type : FieldType) (low high : Int) : Json → Except RecordError FieldValue
  | .number (.integer n) =>
    if low ≤ n.value ∧ n.value < high then .ok (.int n.value)
    else .error (.outOfRange n.value type.expectation)
  | json => .error (.invalidType json.describe type.expectation)

def readText : Json → Except RecordError String
  | .string s => .ok s
  | json => .error (.invalidType json.describe text.expectation)

/-- Read a field. Integers are accepted where a float is expected. -/
def read (type : FieldType) (json : Json) : Except RecordError FieldValue :=
  match type, json with
  | int64, json => readInteger int64 (-0x8000000000000000) 0x8000000000000000 json
  | uint8, json => readInteger uint8 0 0x100 json
  | float, .number (.integer n) => .ok (.float (Binary64.ofInt n.value))
  | float, .number (.float x _) => .ok (.float x)
  | text, json => (readText json).map .text
  | texts, .array items => (items.mapM readText).map .texts
  | flag, .bool b => .ok (.flag b)
  | type, json => .error (.invalidType json.describe type.expectation)

end FieldType

namespace Field

def read (field : Field) (json : Json) : Except RecordError (Option FieldValue) :=
  match field.presence, json with
  | .optional, .null => .ok none
  | _, json => (field.type.read json).map some

/-- The value of a field after all columns have been read. -/
def finish (field : Field) (found : List (String × Option FieldValue)) :
    Except RecordError (Option FieldValue) :=
  match found.lookup field.name with
  | some value => .ok value
  | none => if field.presence = .required then .error (.missingField field.name) else .ok none

end Field

def readColumns (shape : List Field) :
    List (String × Value) → Except RecordError (List (String × Option FieldValue))
  | [] => .ok []
  | (column, value) :: rest =>
    match shape.find? fun field => field.name = column with
    | some field => do return (column, ← field.read value.toJson) :: (← readColumns shape rest)
    | none => readColumns shape rest

/-- Fit a record to a shape. Columns are visited in key order and the first bad one is reported;
then the first missing field is, in the order of the shape. -/
def Record.fit (record : Record) (shape : List Field) :
    Except RecordError (List (Option FieldValue)) := do
  let found ← readColumns shape record.entries
  shape.mapM fun field => field.finish found

def Record.decode (record : Record) (shape : List Field) :
    Except DataError (List (Option FieldValue)) :=
  (record.fit shape).mapError fun error => .other (.undecodableRecord error)

def RereadError.toRecordError : RereadError → RecordError
  | noText found => .invalidType found.describe "raw value"
  | malformed error => .malformed error
  | furtherMembers count => .tooManyMembers count

/-- Decode a record into a JSON object with the values of its columns. -/
def Record.decodeJson (record : Record) : Except DataError Json :=
  match Json.rereadMembers (record.entries.map fun (column, value) => (column, value.toJson)) with
  | .ok members => .ok (.object members)
  | .error error => .error (.other (.undecodableRecord error.toRecordError))

end DataAccess
