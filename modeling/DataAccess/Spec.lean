import DataAccess.Json.Basic
import DataAccess.Text.Quoted

/-! Query specifications. A specification says which request keys are filters and what they compare,
which columns a search looks at, what is selected, and which related rows are loaded along. -/
namespace DataAccess

/-- What a filter key compares. -/
inductive FilterKind where
  | equal
  | in
  | notIn
  | lt
  | gt
  | lte
  | gte
  | contains
deriving DecidableEq, Inhabited

def FilterKind.name : FilterKind → String
  | equal => "Equal"
  | «in» => "In"
  | notIn => "NotIn"
  | lt => "Lt"
  | gt => "Gt"
  | lte => "Lte"
  | gte => "Gte"
  | contains => "Contains"

def FilterKind.ofWireName? : String → Option FilterKind
  | "equal" => some .equal
  | "in" => some .in
  | "not_in" => some .notIn
  | "lt" => some .lt
  | "gt" => some .gt
  | "lte" => some .lte
  | "gte" => some .gte
  | "contains" => some .contains
  | _ => none

/-- The target of a filter key. Without a column, the key itself is the column. -/
structure FilterField where
  column : Option String
  kind : FilterKind
deriving DecidableEq

def FilterField.readColumn? : Json → Option (Option String)
  | .null => some none
  | .string column => some (some column)
  | _ => none

/-- Read a target: an object with a kind and perhaps a column, or a pair of column and kind. -/
def FilterField.ofJson? (json : Json) : Option FilterField :=
  let parts := match json with
    | .object _ => some (json.get "column", json.get "kind")
    | .array [column, kind] => some (column, kind)
    | _ => none
  match parts with
  | some (column, kind) => do
    let column ← readColumn? column
    let kind ← kind.alternative?.bind FilterKind.ofWireName?
    return ⟨column, kind⟩
  | none => none

/-- A selected column with an optional alias. -/
structure SelectField where
  column : String
  label : Option String

def SelectField.sql (field : SelectField) : String :=
  match field.label with
  | some label => field.column ++ " AS " ++ label
  | none => field.column

/-- The columns to select for a locale. -/
abbrev Projection := String → List SelectField

/-- Put the locale in the place of its marker `{locale}` in a template. -/
def fillLocale (locale : List Char) : List Char → List Char
  | [] => []
  | '\x7b' :: 'l' :: 'o' :: 'c' :: 'a' :: 'l' :: 'e' :: '\x7d' :: rest =>
    locale ++ fillLocale locale rest
  | c :: rest => c :: fillLocale locale rest

def SelectField.fill (locale : String) (field : SelectField) : SelectField :=
  let fill (text : String) := String.ofList (fillLocale locale.toList text.toList)
  ⟨fill field.column, field.label.map fill⟩

/-- The projection with a list of columns for each locale. A locale without a list of its own takes
the list named `default`, and columns and aliases may mention the locale. -/
def Projection.ofTemplates (lists : List (String × List SelectField)) : Projection := fun locale =>
  let fields := (lists.lookup locale).orElse fun _ => lists.lookup "default"
  (fields.getD []).map (·.fill locale)

/-- The select list of a projection; an absent or empty one selects everything. -/
def Projection.render? (projection : Option Projection) (locale : String) : Option String :=
  match projection.map (· locale) with
  | none | some [] => none
  | some fields => some (", ".intercalate (fields.map SelectField.sql))

/-- Rows of `table` that go along with a listing: those whose foreign key equals the parent's local
key. -/
structure Preload where
  relation : String
  table : String
  foreignKey : String
  localKey : String
  projection : Option Projection
  includeDeleted : Bool
  softDeleteColumn : Option String

/-- A preload by the default local key, of rows that are not soft-deletable. -/
def Preload.ofKey (relation table foreignKey : String) : Preload :=
  ⟨relation, table, foreignKey, "id", none, false, none⟩

structure Spec where
  filterable : Dict FilterField
  searchable : List String
  defaultSort : Option String
  projection : Option Projection
  preloads : List Preload
  /-- replaces `projection` in listings -/
  listProjection : Option Projection
  /-- replaces `preloads` in listings, also when it is empty -/
  listPreloads : Option (List Preload)
  joins : List String
  groupBy : List String
  /-- whether every call sees soft-deleted rows -/
  unscoped : Bool

namespace Spec

def empty : Spec := ⟨.empty, [], none, none, [], none, none, [], [], false⟩

instance : Inhabited Spec := ⟨empty⟩

def projectionFor (spec : Spec) (listing : Bool) : Option Projection :=
  if listing then spec.listProjection.orElse fun _ => spec.projection else spec.projection

def preloadsFor (spec : Spec) (listing : Bool) : List Preload :=
  match listing, spec.listPreloads with
  | true, some preloads => preloads
  | _, _ => spec.preloads

end Spec

/-! Descriptions of specifications, for messages: fields by name, texts in quotes, and of a
projection only whether there is one. -/
namespace Describe

def flag (b : Bool) : String := if b then "true" else "false"

def optional (describe : α → String) : Option α → String
  | none => "None"
  | some a => "Some(" ++ describe a ++ ")"

def list (describe : α → String) (items : List α) : String :=
  "[" ++ ", ".intercalate (items.map describe) ++ "]"

def dict (describe : α → String) (items : Dict α) : String :=
  "\x7b" ++ ", ".intercalate
    (items.entries.map fun (key, item) => Text.quoted key ++ ": " ++ describe item) ++ "\x7d"

def record (name : String) (fields : List (String × String)) : String :=
  name ++ " \x7b " ++ ", ".intercalate (fields.map fun (field, text) => field ++ ": " ++ text) ++
    " \x7d"

end Describe

def FilterField.describe (field : FilterField) : String :=
  Describe.record "FilterField"
    [("column", Describe.optional Text.quoted field.column), ("kind", field.kind.name)]

def Preload.describe (preload : Preload) : String :=
  Describe.record "Preload"
    [("relation", Text.quoted preload.relation),
     ("table", Text.quoted preload.table),
     ("foreign_key", Text.quoted preload.foreignKey),
     ("local_key", Text.quoted preload.localKey),
     ("projection", Describe.flag preload.projection.isSome),
     ("include_deleted", Describe.flag preload.includeDeleted),
     ("soft_delete_column", Describe.optional Text.quoted preload.softDeleteColumn)]

def Spec.describe (spec : Spec) : String :=
  Describe.record "FilterSpec"
    [("filterable", Describe.dict FilterField.describe spec.filterable),
     ("searchable", Describe.list Text.quoted spec.searchable),
     ("default_sort", Describe.optional Text.quoted spec.defaultSort),
     ("projection", Describe.flag spec.projection.isSome),
     ("preloads", Describe.list Preload.describe spec.preloads),
     ("list_projection", Describe.flag spec.listProjection.isSome),
     ("list_preloads", Describe.optional (Describe.list Preload.describe) spec.listPreloads),
     ("joins", Describe.list Text.quoted spec.joins),
     ("group_by", Describe.list Text.quoted spec.groupBy),
     ("unscoped", Describe.flag spec.unscoped)]

end DataAccess
