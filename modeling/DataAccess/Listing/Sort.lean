import DataAccess.Settings.Basic
import DataAccess.Sql.Identifier
import DataAccess.Sql.Query
import DataAccess.Text.Blank

/-! The order of a listing. The requested key counts only if it is a plain identifier; then come the
default of the specification and the configured default. -/
namespace DataAccess

/-- The direction with this name in any ASCII case, blanks around it aside; any other text is
descending. -/
def SortDirection.parse (text : Option String) : SortDirection :=
  match text with
  | some text =>
    if (Text.trimChars text.toList).map Char.toLower = ['a', 's', 'c'] then asc else desc
  | none => desc

structure SortTerm where
  column : String
  direction : SortDirection
deriving DecidableEq

namespace SortTerm

/-- The requested key, trimmed, if it is a plain identifier. -/
def requestedColumn? (key : Option String) : Option String :=
  (key.map Text.trim).filter (isIdentifier · false)

def resolve (key direction specDefault : Option String) (settings : Settings) : SortTerm :=
  let column := (requestedColumn? key).orElse fun _ => specDefault.filter (· ≠ "")
  ⟨column.getD settings.defaultSort, .parse direction⟩

def sql (term : SortTerm) : String := term.column ++ " " ++ term.direction.sql

end SortTerm

end DataAccess
