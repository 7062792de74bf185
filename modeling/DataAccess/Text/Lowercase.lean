import DataAccess.Text.Lowercase.Table

/-! Lowercasing of whole texts. Each character maps by itself, with two exceptions: a dotted
capital I becomes an i followed by a combining dot, and a capital sigma at the end of a word takes
its final form. -/
namespace DataAccess.Text

/-- The single lowercase counterpart of a character, itself if it has none. -/
def lowerChar (c : Char) : Char :=
  if c.toNat < 0x80 then c.toLower
  else
    let run? := lowercaseRuns.find? fun run =>
      run.first ≤ c.toNat && c.toNat ≤ run.last && (c.toNat - run.first) % run.stride == 0
    match run? with
    | some run => Char.ofNat (c.toNat + run.offset).toNat
    | none => c

def isCased (c : Char) : Bool := inRanges casedRanges c

def isCaseIgnorable (c : Char) : Bool := inRanges caseIgnorableRanges c

/-- Whether the next character that is not looked past is a letter with case. -/
def meetsCased (text : List Char) : Bool :=
  match text.dropWhile isCaseIgnorable with
  | c :: _ => isCased c
  | [] => false

/-- Lowercase `text`, which stands after the reversed text `before`. -/
def lowerFrom (before : List Char) : List Char → List Char
  | [] => []
  | c :: rest =>
    let lowered :=
      if c = 'Σ' then [if meetsCased before && !meetsCased rest then 'ς' else 'σ']
      else if c = 'İ' then ['i', Char.ofNat 0x307]
      else [lowerChar c]
    lowered ++ lowerFrom (c :: before) rest

def lowercase (text : String) : String := String.ofList (lowerFrom [] text.toList)

end DataAccess.Text
