/-! The locale of a call. Scopes bind a tag and nest; the innermost one counts, and an empty tag
counts as none. -/
namespace DataAccess

/-- The tag bound by the innermost scope, if there is a scope. -/
abbrev LocaleScope := Option String

namespace LocaleScope

def current? (scope : LocaleScope) : Option String := scope.filter (· ≠ "")

def currentOr (scope : LocaleScope) (fallback : String) : String := scope.current?.getD fallback

/-- The scope inside one that may bind a tag. -/
def enter (scope : LocaleScope) (tag : Option String) : LocaleScope := tag.orElse fun _ => scope

end LocaleScope

/-- A program that looks at the active locale, inside and outside of scopes. -/
inductive LocaleStep where
  | look
  | scoped (tag : String) (steps : List LocaleStep)

mutual

/-- What a program sees, in order. -/
def LocaleStep.seen (scope : LocaleScope) : LocaleStep → List (Option String)
  | .look => [scope.current?]
  | .scoped tag steps => seenAll (some tag) steps

def seenAll (scope : LocaleScope) : List LocaleStep → List (Option String)
  | [] => []
  | step :: rest => step.seen scope ++ seenAll scope rest

end

end DataAccess
