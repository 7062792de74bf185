import DataAccess.Json.Reader

/-! Reading a JSON value again. A value that is handed on as parsed JSON is read once more where it
is taken for data of any kind. Its members are in key order then, so an object that has the key of
embedded texts in front may not have been written with it there; such an object is refused. -/
namespace DataAccess

inductive RereadError where
  /-- the key of embedded texts has a value that is no text -/
  | noText (found : Json)
  /-- the embedded text is malformed -/
  | malformed (error : JsonError)
  /-- an object that holds an embedded text has so many members -/
  | furtherMembers (count : Nat)

/-- The value of an object that holds an embedded text, and nothing for any other object. -/
def embeddedValue? : List (String × Json) → Option (Except RereadError Json)
  | [] => none
  | (key, value) :: rest =>
    if key = JsonReader.embeddedTextKey then
      match value with
      | .string text =>
        match Json.ofText text with
        | .error error => some (.error (.malformed error))
        | .ok value =>
          some (if rest.isEmpty then .ok value else .error (.furtherMembers (rest.length + 1)))
      | value => some (.error (.noText value))
    else none

mutual

def Json.reread : Json → Except RereadError Json
  | .array items => (Json.rereadItems items).map .array
  | .object members =>
    match embeddedValue? members with
    | some value => value
    | none => (Json.rereadMembers members).map .object
  | json => .ok json

def Json.rereadItems : List Json → Except RereadError (List Json)
  | [] => .ok []
  | item :: rest => do return (← Json.reread item) :: (← Json.rereadItems rest)

def Json.rereadMembers : List (String × Json) → Except RereadError (List (String × Json))
  | [] => .ok []
  | (key, value) :: rest => do
    return (key, ← Json.reread value) :: (← Json.rereadMembers rest)

end

end DataAccess
