/-! Directories, as far as finding files in them goes. -/
namespace DataAccess

inductive FileEntry where
  | file (text : String)
  | directory

/-- A directory: the path to it, and what stands under each path in it, given by the names on the
way. -/
structure Directory where
  location : String
  entries : List (List String × FileEntry) := []

namespace Directory

/-- A path may be this long, in bytes. What a longer one leads to cannot be found. -/
def longestPath : Nat := 4095

def partsOf (path : String) : List String := (path.toList.splitOn '/').map String.ofList

/-- Whether a part of a path leads nowhere else. -/
def isIdle (part : String) : Bool := part == "" || part == "."

def put (directory : Directory) (path : String) (entry : FileEntry) : Directory :=
  { directory with
    entries := ((partsOf path).filter (!isIdle ·), entry) :: directory.entries }

/-- What stands under some names, innermost first. A directory need not have been put there if
something stands in it. -/
def entry? (directory : Directory) (inside : List String) : Option FileEntry :=
  let names := inside.reverse
  match directory.entries.lookup names with
  | some entry => some entry
  | none =>
    if directory.entries.any fun (path, _) => names.isPrefixOf path then some .directory else none

/-- Go down some parts of a path from inside a directory. Every part but the last must lead to a
directory; a dot stays where it is and two dots go up, but not out of the directory. -/
def walk (directory : Directory) (inside : List String) : List String → Option FileEntry
  | [] => none
  | [part] => directory.entry? (part :: inside)
  | part :: rest =>
    if isIdle part then directory.walk inside rest
    else if part = ".." then
      match inside with
      | [] => none
      | _ :: outer => directory.walk outer rest
    else
      match directory.entry? (part :: inside) with
      | some .directory => directory.walk (part :: inside) rest
      | _ => none

/-- What a path from the directory leads to. The way to the directory counts for its length. -/
def find? (directory : Directory) (path : String) : Option FileEntry :=
  if longestPath < (directory.location ++ "/" ++ path).utf8ByteSize then none
  else directory.walk [] (partsOf path)

end Directory

end DataAccess
