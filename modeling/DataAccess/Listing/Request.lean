import DataAccess.Json.Reread
import DataAccess.Text.Blank
import DataAccess.Value

/-! Listing requests. A request arrives as a JSON object: six keys have a meaning of their own, and
every other key is a filter. -/
namespace DataAccess

/-- A listing request. Page and size are raw: they are normalised when the listing is planned. -/
structure ListingRequest where
  page : Int64
  perPage : Int64
  pagination : Option Bool
  search : Option String
  sortKey : Option String
  sortDirection : Option String
  filters : Dict Value

namespace ListingRequest

/-- The first page in its default size, with no filter. -/
def default : ListingRequest := ⟨1, 0, none, none, none, none, .empty⟩

instance : Inhabited ListingRequest := ⟨default⟩

def isDefault (request : ListingRequest) : Bool :=
  request.page == 1 && request.perPage == 0 && request.pagination.isNone &&
    request.search.isNone && request.sortKey.isNone && request.sortDirection.isNone &&
    request.filters.isEmpty

def withPage (request : ListingRequest) (page perPage : Int64) : ListingRequest :=
  { request with page, perPage }

def searching (request : ListingRequest) (term : String) : ListingRequest :=
  { request with search := some term }

def sortedBy (request : ListingRequest) (key direction : String) : ListingRequest :=
  { request with sortKey := some key, sortDirection := some direction }

def filter (request : ListingRequest) (key : String) (value : Value) : ListingRequest :=
  { request with filters := request.filters.insert key value }

def unpaginated (request : ListingRequest) : ListingRequest :=
  { request with pagination := some false }

/-- Pagination is on unless it is turned off. -/
def isPaginated (request : ListingRequest) : Bool := request.pagination.getD true

/-- The trimmed search term, unless it is blank. -/
def searchTerm? (request : ListingRequest) : Option String :=
  (request.search.map Text.trim).filter (· ≠ "")

/-- The keys with a meaning of their own. -/
inductive Key where
  | page
  | perPage
  | pagination
  | search
  | sortKey
  | sortDirection
deriving DecidableEq

def Key.ofName? : String → Option Key
  | "page" => some .page
  | "per_page" => some .perPage
  | "pagination" => some .pagination
  | "search" => some .search
  | "sort_key" => some .sortKey
  | "sort_dir" => some .sortDirection
  | _ => none

/-- A page or a size: a whole number that a signed word holds. -/
def readNumber? : Json → Option Int64
  | .number (.integer n) => n.toInt64?
  | _ => none

/-- A flag, or null for none. -/
def readFlag? : Json → Option (Option Bool)
  | .null => some none
  | .bool b => some (some b)
  | _ => none

/-- A text, or null for none. -/
def readText? : Json → Option (Option String)
  | .null => some none
  | .string s => some (some s)
  | _ => none

/-- Take the member of a known key. -/
def setKey? (request : ListingRequest) (value : Json) : Key → Option ListingRequest
  | .page => (readNumber? value).map fun page => { request with page }
  | .perPage => (readNumber? value).map fun perPage => { request with perPage }
  | .pagination => (readFlag? value).map fun pagination => { request with pagination }
  | .search => (readText? value).map fun search => { request with search }
  | .sortKey => (readText? value).map fun sortKey => { request with sortKey }
  | .sortDirection => (readText? value).map fun sortDirection => { request with sortDirection }

/-- Take the members of an object in order, given the known keys that have been seen. A known key
may come once; a filter may be repeated, and its last value counts. -/
def takeMembers (seen : List Key) (request : ListingRequest) :
    List (String × Json) → Option ListingRequest
  | [] => some request
  | (name, value) :: rest =>
    match Key.ofName? name with
    | none => takeMembers seen (request.filter name (Value.ofJson value)) rest
    | some key =>
      if key ∈ seen then none
      else (request.setKey? value key).bind fun request => takeMembers (key :: seen) request rest

def ofMembers? (members : List (String × Json)) : Option ListingRequest :=
  takeMembers [] default members

/-- Read the values of filters again. A known key takes its value as it stands. -/
def rereadFilters : List (String × Json) → Except RereadError (List (String × Json))
  | [] => .ok []
  | (key, value) :: rest => do
    let value ← if (Key.ofName? key).isSome then pure value else value.reread
    return (key, value) :: (← rereadFilters rest)

def ofJson? : Json → Option ListingRequest
  | .object members => (rereadFilters members).toOption.bind ofMembers?
  | _ => none

/-- The request of a JSON text, which must be an object. Only filters may be embedded texts. -/
def ofText? (text : String) : Option ListingRequest :=
  match JsonDocument.ofText? text with
  | some (.object members) =>
    if members.any fun member => member.embedded && (Key.ofName? member.key).isSome then none
    else ofMembers? (members.map fun member => (member.key, member.value))
  | _ => none

end ListingRequest

end DataAccess
