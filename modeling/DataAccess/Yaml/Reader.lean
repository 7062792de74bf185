/-! What loading settings asks of a reader of YAML. A text is read as one document, and the nodes of
the document as the types that are asked for; a reader says which nodes can be read so. -/
namespace DataAccess.Yaml

/-- A reader of documents, with nodes of its own. -/
structure Reader where
  Node : Type
  /-- the root of the only document of a text -/
  root? : String → Option Node
  isNull : Node → Bool
  /-- the entries of a mapping with texts for keys, in their order; a document without content has
  none -/
  entries? : Node → Option (List (String × Node))
  word? : Node → Option UInt64
  text? : Node → Option String
  /-- the name of a variant of an enumeration -/
  variant? : Node → Option String

namespace Reader

variable (yaml : Reader)

/-- The value of a key, if there is one; two values are refused. -/
def field? (entries : List (String × yaml.Node)) (key : String) : Option (Option yaml.Node) :=
  match entries.filter fun entry => entry.1 == key with
  | [] => some none
  | [entry] => some (some entry.2)
  | _ => none

/-- Read a value that may be missing or null. -/
def optional? {α : Type} (read : yaml.Node → Option α) : Option yaml.Node → Option (Option α)
  | none => some none
  | some node => if yaml.isNull node then some none else (read node).map some

end Reader

end DataAccess.Yaml
