import DataAccess.Settings.Variables
import DataAccess.Text.Alphanumeric

/-! Files of environment variables. A line assigns a value to a name; a quote or a backslash at the
end of a line takes the next one along. Only variables that are not set yet are set, and at the
first line that cannot be read the file ends. -/
namespace DataAccess.EnvFile

/-- Where a line stands with its quotes when it is looked at for its end. -/
inductive LineState where
  | plain
  /-- behind one blank, where a comment may begin -/
  | blank
  | escape
  | single
  | singleEscape
  | double
  | doubleEscape

/-- A blank inside a line. -/
def isInnerBlank (c : Char) : Bool := Text.isBlank c && c != '\n' && c != '\r'

namespace LineState

def unquoted : Char → LineState
  | '\\' => escape
  | '"' => double
  | '\'' => single
  | _ => plain

/-- The state after one more character. Of two blanks only the first lets a comment begin. -/
def next (state : LineState) (c : Char) : LineState :=
  match state with
  | plain => if isInnerBlank c then blank else unquoted c
  | blank => unquoted c
  | escape => plain
  | single => if c = '\\' then singleEscape else if c = '\'' then plain else single
  | singleEscape => single
  | double => if c = '\\' then doubleEscape else if c = '"' then plain else double
  | doubleEscape => double

end LineState

/-- Look at a line: what of it counts, and the state at its end, or none at a comment. -/
def scanLine (state : LineState) : List Char → List Char × Option LineState
  | [] => ([], some state)
  | c :: rest =>
    match state, c with
    | .blank, '#' => ([], none)
    | state, c =>
      let (kept, final) := scanLine (state.next c) rest
      (c :: kept, final)

/-- The lines of a text, each with its line feed. -/
def lines (text : List Char) : List (List Char) :=
  match text with
  | [] => []
  | c :: rest =>
    match c, lines rest with
    | '\n', following => ['\n'] :: following
    | c, [] => [[c]]
    | c, line :: following => (c :: line) :: following

/-- Drop the line feed at the end, and a carriage return before it. -/
def dropLineEnd (line : List Char) : List Char :=
  match line.reverse with
  | '\n' :: '\r' :: rest => rest.reverse
  | '\n' :: rest => rest.reverse
  | _ => line

def isComment (line : List Char) : Bool := (line.dropWhile Text.isBlank).head? == some '#'

/-- The entries of a file: lines, of which some have taken the next ones along. An entry that cannot
be read ends the file, as does one that is still open there. -/
def entries (state : LineState) (before : List Char) : List (List Char) → List (List Char)
  | [] => []
  | line :: rest =>
    if isComment (before ++ line) then entries .plain [] rest
    else
      match scanLine state line with
      | (kept, none) => (before ++ kept) :: entries .plain [] rest
      | (kept, some .plain) => dropLineEnd (before ++ kept) :: entries .plain [] rest
      | (kept, some state) => entries state (before ++ kept) rest

/-- What a value is being read as. -/
inductive ValueState where
  | text
  | escape
  | single
  /-- the name of a variable -/
  | name (name : List Char)
  /-- the name of a variable, in braces -/
  | braced (name : List Char)
  /-- behind the value -/
  | done

/-- The character that a backslash and a character stand for. -/
def escaped? (c : Char) : Option Char :=
  if c = 'n' then some '\n' else if ['\\', '\'', '"', '$', ' '].contains c then some c else none

/-- The value of a variable; one that is not set is empty. A variable and its value are one text
with an equals sign between them, so a name that itself goes on behind an equals sign finds what
follows in the value of the variable that it begins with. -/
def substitute (environment : Environment) (name : List Char) : List Char :=
  let value := ((environment (String.ofList (name.takeWhile (· ≠ '=')))).getD "").toList
  match name.dropWhile (· ≠ '=') with
  | [] => value
  | _ :: start =>
    if (start ++ ['=']).isPrefixOf value then value.drop (start.length + 1) else []

/-- Read the rest of a value: `double` says whether it is in double quotes. A variable's name ends
at the first character that is neither letter nor number, which stands for itself. -/
def readValue (environment : Environment) (double : Bool) :
    ValueState → List Char → Option (List Char)
  | .single, [] => none
  | .braced _, [] => none
  | .name name, [] => if double then none else some (substitute environment name)
  | _, [] => if double then none else some []
  | .done, c :: rest =>
    if c = ' ' ∨ c = '\t' then readValue environment double .done rest
    else if c = '#' then some []
    else none
  | .escape, c :: rest =>
    match escaped? c with
    | some d => (readValue environment double .text rest).map (d :: ·)
    | none => none
  | .single, c :: rest =>
    if c = '\'' then readValue environment double .text rest
    else (readValue environment double .single rest).map (c :: ·)
  | .name name, c :: rest =>
    if Text.isAlphanumeric c then readValue environment double (.name (name ++ [c])) rest
    else if c = '\x7b' ∧ name = [] then readValue environment double (.braced []) rest
    else
      let value := substitute environment name
      if c = '$' then (readValue environment double (.name []) rest).map (value ++ ·)
      else (readValue environment double .text rest).map (value ++ c :: ·)
  | .braced name, c :: rest =>
    if c = '\x7d' then
      (readValue environment double .text rest).map (substitute environment name ++ ·)
    else readValue environment double (.braced (name ++ [c])) rest
  | .text, c :: rest =>
    if c = '$' then readValue environment double (.name []) rest
    else if c = '\\' then readValue environment double .escape rest
    else if c = '"' then readValue environment (!double) .text rest
    else if double then (readValue environment double .text rest).map (c :: ·)
    else if c = '\'' then readValue environment double .single rest
    else if c = ' ' ∨ c = '\t' then readValue environment double .done rest
    else (readValue environment double .text rest).map (c :: ·)

def isNameStart (c : Char) : Bool := c.isAlpha || c == '_'

def isNameChar (c : Char) : Bool := c.isAlphanum || c == '_' || c == '.'

def readName (text : List Char) : Option (String × List Char) :=
  match text with
  | c :: _ =>
    if isNameStart c then
      some (String.ofList (text.takeWhile isNameChar),
        (text.dropWhile isNameChar).dropWhile Text.isBlank)
    else none
  | [] => none

/-- Read a name and the equals sign behind it. The name may have the word `export` in front, and may
be that word itself. -/
def readTarget (text : List Char) : Option (String × List Char) :=
  match readName text with
  | some (name, '=' :: rest) => some (name, rest)
  | some ("export", rest) =>
    match readName rest with
    | some (name, '=' :: rest) => some (name, rest)
    | _ => none
  | _ => none

/-- Read an entry: nothing if it is blank or a comment. -/
def readEntry (environment : Environment) (entry : List Char) :
    Option (Option (String × String)) :=
  let text := Text.trimChars entry
  if text.isEmpty || isComment text then some none
  else do
    let (name, rest) ← readTarget text
    let rest := rest.dropWhile Text.isBlank
    if isComment rest then return some (name, "")
    let value ← readValue environment false .text rest
    return some (name, String.ofList value)

def assign (environment : Environment) (name value : String) : Environment :=
  if (environment name).isSome then environment
  else fun other => if other = name then some value else environment other

def assignAll (environment : Environment) : List (List Char) → Environment
  | [] => environment
  | entry :: rest =>
    match readEntry environment entry with
    | some (some (name, value)) => assignAll (assign environment name value) rest
    | some none => assignAll environment rest
    | none => environment

def extend (environment : Environment) (text : String) : Environment :=
  let chars := text.toList
  let chars := if chars.head? = some '\ufeff' then chars.drop 1 else chars
  assignAll environment (entries .plain [] (lines chars))

end DataAccess.EnvFile
