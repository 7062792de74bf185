import DataAccess.Entity.Record

/-! Entities. A schema says how an entity is mapped: its table, identity, columns, deletion marker
and the relations it takes. A row is one instance: its identity, the columns it writes, and the
records that have been attached to it. -/
namespace DataAccess

/-- How a column of a result is read into an entity. -/
inductive ColumnKind where
  | id
  | int
  | optionalInt
  | float
  | bool
  | text
  | optionalText
deriving DecidableEq

/-- The mapping of an entity. -/
structure Schema where
  table : String
  idType : IdType
  idColumn : String
  columns : List String
  softDelete : Option String
  /-- the relations that rows accept, or nothing if they accept none -/
  relations : Option (List String)
  /-- how rows are read from a result, in order -/
  layout : List (String × ColumnKind)

structure Row (schema : Schema) where
  id : schema.idType.Carrier
  /-- the columns that are written, in order -/
  values : List (String × Value)
  /-- the related records, by relation -/
  attached : Dict (List Record)

namespace Schema

/-- The identity column, if it can be used. -/
def identityColumn (schema : Schema) : Except DataError String :=
  if isIdentifier schema.idColumn false then
    if schema.idColumn ∈ schema.columns then .ok schema.idColumn
    else .error (.configuration (.identityNotAColumn schema.idColumn schema.table))
  else .error (.configuration (.noIdentity schema.table))

/-- A column with the table in front. -/
def qualified (schema : Schema) (column : String) : String := schema.table ++ "." ++ column

def idValue (schema : Schema) (id : schema.idType.Carrier) : IdValue := schema.idType.toIdValue id

def readId (schema : Schema) (carried : IdValue) : Except DataError schema.idType.Carrier :=
  match schema.idType.ofIdValue? carried with
  | some id => .ok id
  | none => .error (.configuration (.identityMismatch carried schema.idType))

end Schema

def IdValue.ofValue (value : Value) : Except DataError IdValue :=
  match IdValue.ofValue? value with
  | some id => .ok id
  | none => .error (.configuration (.unsupportedIdentity value.kind))

namespace Row

variable {schema : Schema}

/-- The value of a column on this row, by which related rows are matched. -/
def keyValue? (row : Row schema) (column : String) : Option Value :=
  if column = schema.idColumn then some (schema.idValue row.id).toValue
  else row.values.lookup column

/-- Take the records of a relation, in place of any it had. -/
def attach (row : Row schema) (relation : String) (records : List Record) :
    Except DataError (Row schema) :=
  match schema.relations with
  | none => .error (.configuration (.relationRejected relation schema.table))
  | some relations =>
    if relation ∈ relations then
      .ok { row with attached := row.attached.insert relation records }
    else .error (.configuration (.unknownRelation relation))

end Row

end DataAccess
