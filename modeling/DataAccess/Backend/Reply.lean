import DataAccess.Entity.Schema
import DataAccess.Text.Utf8

/-! Replies of a backend and how their cells are read. A typed read accepts the SQL types that fit
it and reports any other; an untyped read tries integers, floats, texts, flags and bytes in turn. -/
namespace DataAccess

inductive Cell where
  | null
  | boolean (value : Bool)
  | smallint (value : Int64)
  | integer (value : Int64)
  | bigint (value : Int64)
  | real (value : Binary64)
  | double (value : Binary64)
  | text (value : String)
  | blob (content : List UInt8)

def Cell.typeName : Cell → String
  | null => "NULL"
  | boolean _ => "BOOLEAN"
  | smallint _ => "SMALLINT"
  | integer _ => "INTEGER"
  | bigint _ => "BIGINT"
  | real _ => "REAL"
  | double _ => "DOUBLE"
  | text _ => "TEXT"
  | blob _ => "BLOB"

/-- A row of a result: the columns in order, with their cells. -/
abbrev ResultRow := List (String × Cell)

structure Reply where
  rows : List ResultRow
  affected : UInt64
  lastId : Option Int64
  failure : Option BackendFailure
  /-- milliseconds until the reply is there, if it is waited for -/
  delay : Option Nat
  /-- whether the call is cancelled while it waits -/
  cancels : Bool

def Reply.empty : Reply := ⟨[], 0, none, none, none, false⟩

instance : Inhabited Reply := ⟨.empty⟩

inductive CellType where
  | int
  | float
  | bool
  | text
  | bytes
deriving DecidableEq

namespace CellType

def name : CellType → String
  | int => "i64"
  | float => "f64"
  | bool => "bool"
  | text => "alloc::string::String"
  | bytes => "alloc::vec::Vec<u8>"

def optionalName (type : CellType) : String := "core::option::Option<" ++ type.name ++ ">"

def sqlName : CellType → String
  | int => "BIGINT"
  | float => "DOUBLE"
  | bool => "BOOLEAN"
  | text => "TEXT"
  | bytes => "BLOB"

def read? : CellType → Cell → Option Value
  | int, .smallint n => some (.int n)
  | int, .integer n => some (.int n)
  | int, .bigint n => some (.int n)
  | float, .double x => some (.float x)
  | bool, .boolean b => some (.bool b)
  | text, .text s => some (.text s)
  | bytes, .blob content => some (.text (Text.decodeLossy content))
  | _, _ => none

def mismatch (typeName : String) (cell : Cell) : String :=
  "mismatched types; Rust type `" ++ typeName ++ "` is not compatible with SQL type `" ++
    cell.typeName ++ "`"

def readOptional (type : CellType) (index : String) (cell : Cell) :
    Except BackendFailure Value :=
  match cell with
  | .null => .ok .null
  | cell =>
    match type.read? cell with
    | some value => .ok value
    | none => .error (.columnDecode index (mismatch type.optionalName cell))

def readRequired (type : CellType) (index : String) (cell : Cell) :
    Except BackendFailure Value :=
  match cell with
  | .null => .error (.columnDecode index ("expected " ++ type.sqlName ++ ", got Null(Null)"))
  | cell =>
    match type.read? cell with
    | some value => .ok value
    | none => .error (.columnDecode index (mismatch type.name cell))

end CellType

/-- Read a cell of any type: the first of the types that fits. A cell that fits none is reported as
the last of them reports it. -/
def Cell.decode (index : Nat) (cell : Cell) : Except BackendFailure Value :=
  match cell with
  | .null => .ok .null
  | cell =>
    match [CellType.int, .float, .text, .bool, .bytes].findSome? (·.read? cell) with
    | some value => .ok value
    | none =>
      .error (.columnDecode (toString index) (CellType.mismatch CellType.bytes.optionalName cell))

namespace ResultRow

def decodeAt (row : ResultRow) (index : Nat) : Except DataError Value :=
  match row[index]? with
  | some (_, cell) => (cell.decode index).mapError BackendFailure.toDataError
  | none => .error (BackendFailure.toDataError (.outOfBounds row.length index))

/-- Decode the columns from a position on into a record; of columns with one name the last counts.
-/
def decodeFrom (index : Nat) (record : Record) : ResultRow → Except DataError Record
  | [] => .ok record
  | (column, cell) :: rest =>
    match cell.decode index with
    | .ok value => decodeFrom (index + 1) (record.insert column value) rest
    | .error failure => .error failure.toDataError

def decode (row : ResultRow) : Except DataError Record := decodeFrom 0 Dict.empty row

/-- The cell of a column by name; of columns with one name, the last. -/
def cell (row : ResultRow) (column : String) : Except BackendFailure Cell :=
  match row.reverse.lookup column with
  | some cell => .ok cell
  | none => .error (.columnNotFound column)

def read (row : ResultRow) (column : String) (type : CellType) (optional : Bool) :
    Except BackendFailure Value := do
  let cell ← row.cell column
  let index := Text.quoted column
  if optional then type.readOptional index cell else type.readRequired index cell

/-- Read an identity by name. Integer identities are read as signed words and must fit their type.
-/
def readId (row : ResultRow) (column : String) (type : IdType) :
    Except BackendFailure type.Carrier := do
  let value ← row.read column (if type = .text then .text else .int) false
  match (IdValue.ofValue? value).bind type.ofIdValue? with
  | some id => return id
  | none => throw (.protocol ("bad id " ++ value.toText))

def readKind (row : ResultRow) (column : String) : ColumnKind → Except BackendFailure Value
  | .id | .int => row.read column .int false
  | .optionalInt => row.read column .int true
  | .float => row.read column .float false
  | .bool => row.read column .bool false
  | .text => row.read column .text false
  | .optionalText => row.read column .text true

structure EntityReading (type : IdType) where
  id : Option type.Carrier
  values : List (String × Value)

def readLayout (row : ResultRow) (type : IdType) (read : EntityReading type) :
    List (String × ColumnKind) → Except BackendFailure (EntityReading type)
  | [] => .ok read
  | (column, .id) :: rest => do
    let id ← row.readId column type
    row.readLayout type { read with id := some id } rest
  | (column, kind) :: rest => do
    let value ← row.readKind column kind
    row.readLayout type { read with values := read.values ++ [(column, value)] } rest

/-- Read a row of a schema. Without an identity in the layout it is read last, from the column `id`.
-/
def readRow (row : ResultRow) (schema : Schema) : Except BackendFailure (Row schema) := do
  let read ← row.readLayout schema.idType ⟨none, []⟩ schema.layout
  match read.id with
  | some id => return ⟨id, read.values, .empty⟩
  | none => return ⟨← row.readId "id" schema.idType, read.values, .empty⟩

end ResultRow

/-- What reads need to know of the entities that they read, and of how they take related rows. -/
class Entity (α : Type) where
  read : ResultRow → Except BackendFailure α
  /-- the value of a column, by which related rows are matched -/
  keyValue? : α → String → Option Value
  /-- take the records of a relation -/
  attach : α → String → List Record → Except DataError α

instance (schema : Schema) : Entity (Row schema) where
  read row := row.readRow schema
  keyValue? := Row.keyValue?
  attach := Row.attach

namespace ResultRow

def toEntity {α : Type} [Entity α] (row : ResultRow) : Except DataError α :=
  (Entity.read row).mapError BackendFailure.toDataError

def toRow (row : ResultRow) (schema : Schema) : Except DataError (Row schema) := row.toEntity

end ResultRow

end DataAccess
