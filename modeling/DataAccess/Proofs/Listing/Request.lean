import DataAccess.Listing.Request
import DataAccess.Proofs.Json.Conversion
import DataAccess.Proofs.Listing.Filter

/-! Where the members of a request go. A known key has a form for each value that it can take, and a
member with that key fits if its value has one of them; a member with any other key is a filter.
Each member sets what its own key stands for and leaves the rest alone, so members with distinct
keys are taken in any order. -/
namespace DataAccess

/-- Dictionaries are equal if every key has the same in both. -/
theorem Dict.ext_of_get? {α : Type} {first second : Dict α}
    (same : ∀ key, first.get? key = second.get? key) : first = second := by
  have entries : first.entries = second.entries := by
    refine first.ascending.eq_of_mem_iff second.ascending ?_
    rintro ⟨key, value⟩
    rw [← Dict.get?_eq_some_iff, ← Dict.get?_eq_some_iff, same]
  obtain ⟨_, _⟩ := first
  obtain ⟨_, _⟩ := second
  obtain rfl := entries
  rfl

namespace ListingRequest

namespace Key

/-- What a known key holds. -/
abbrev Carrier : Key → Type
  | page => Int64
  | perPage => Int64
  | pagination => Option Bool
  | search => Option String
  | sortKey => Option String
  | sortDirection => Option String

/-- The name of a known key in an object. -/
def name : Key → String
  | page => "page"
  | perPage => "per_page"
  | pagination => "pagination"
  | search => "search"
  | sortKey => "sort_key"
  | sortDirection => "sort_dir"

/-- What a known key holds where an object leaves it out. -/
def absent : (key : Key) → key.Carrier
  | page => 1
  | perPage => 0
  | pagination => none
  | search => none
  | sortKey => none
  | sortDirection => none

def ofRequest : (key : Key) → ListingRequest → key.Carrier
  | page, request => request.page
  | perPage, request => request.perPage
  | pagination, request => request.pagination
  | search, request => request.search
  | sortKey, request => request.sortKey
  | sortDirection, request => request.sortDirection

def set : (key : Key) → key.Carrier → ListingRequest → ListingRequest
  | page, value, request => { request with page := value }
  | perPage, value, request => { request with perPage := value }
  | pagination, value, request => { request with pagination := value }
  | search, value, request => { request with search := value }
  | sortKey, value, request => { request with sortKey := value }
  | sortDirection, value, request => { request with sortDirection := value }

/-- The JSON form of what a known key holds. A number is never null; a flag or a text may be. -/
def form : (key : Key) → key.Carrier → Json
  | page, number => .ofInt64 number
  | perPage, number => .ofInt64 number
  | pagination, flag => flag.elim .null .bool
  | search, text => text.elim .null .string
  | sortKey, text => text.elim .null .string
  | sortDirection, text => text.elim .null .string

def read? : (key : Key) → Json → Option key.Carrier
  | page => readNumber?
  | perPage => readNumber?
  | pagination => readFlag?
  | search => readText?
  | sortKey => readText?
  | sortDirection => readText?

theorem ofName?_eq_some_iff {text : String} {key : Key} :
    ofName? text = some key ↔ text = key.name := by
  constructor
  · intro known
    unfold ofName? at known
    split at known
    all_goals first | contradiction | obtain rfl := Option.some.inj known; rfl
  · rintro rfl
    cases key <;> rfl

theorem ofName?_name (key : Key) : ofName? key.name = some key := ofName?_eq_some_iff.2 rfl

theorem ofName?_eq_none_iff {text : String} :
    ofName? text = none ↔ ∀ key : Key, text ≠ key.name := by
  simp only [Option.eq_none_iff_forall_ne_some, ne_eq, ofName?_eq_some_iff]

theorem name_injective {key other : Key} (same : key.name = other.name) : key = other := by
  have known := ofName?_name key
  rw [same, ofName?_name] at known
  exact (Option.some.inj known).symm

theorem readNumber?_eq_some_iff {json : Json} {number : Int64} :
    readNumber? json = some number ↔ json = .ofInt64 number := by
  constructor
  · intro read
    unfold readNumber? at read
    split at read
    · next n =>
      rw [Json.ofInt64, WordInteger.ofInt64_of_toInt64? read]
    · contradiction
  · rintro rfl
    exact WordInteger.toInt64?_ofInt64 number

theorem readFlag?_eq_some_iff {json : Json} {flag : Option Bool} :
    readFlag? json = some flag ↔ json = flag.elim .null .bool := by
  constructor
  · intro read
    unfold readFlag? at read
    split at read
    all_goals first | contradiction | obtain rfl := Option.some.inj read; rfl
  · rintro rfl
    cases flag <;> rfl

theorem readText?_eq_some_iff {json : Json} {text : Option String} :
    readText? json = some text ↔ json = text.elim .null .string := by
  constructor
  · intro read
    unfold readText? at read
    split at read
    all_goals first | contradiction | obtain rfl := Option.some.inj read; rfl
  · rintro rfl
    cases text <;> rfl

/-- A known key reads exactly the forms of what it can hold. -/
theorem read?_eq_some_iff {key : Key} {json : Json} {value : key.Carrier} :
    key.read? json = some value ↔ json = key.form value := by
  cases key with
  | page => exact readNumber?_eq_some_iff
  | perPage => exact readNumber?_eq_some_iff
  | pagination => exact readFlag?_eq_some_iff
  | search => exact readText?_eq_some_iff
  | sortKey => exact readText?_eq_some_iff
  | sortDirection => exact readText?_eq_some_iff

theorem form_injective {key : Key} {value other : key.Carrier}
    (same : key.form value = key.form other) : value = other := by
  have read := read?_eq_some_iff.2 same
  rw [read?_eq_some_iff.2 rfl] at read
  exact Option.some.inj read

theorem ofRequest_default (key : Key) : key.ofRequest default = key.absent := by
  cases key <;> rfl

@[simp]
theorem ofRequest_set (key : Key) (value : key.Carrier) (request : ListingRequest) :
    key.ofRequest (key.set value request) = value := by
  cases key <;> rfl

/-- Setting one key leaves the others alone. -/
theorem ofRequest_set_of_ne {key other : Key} (differs : other ≠ key) (value : key.Carrier)
    (request : ListingRequest) :
    other.ofRequest (key.set value request) = other.ofRequest request := by
  cases key <;> cases other <;> first | contradiction | rfl

@[simp]
theorem filters_set (key : Key) (value : key.Carrier) (request : ListingRequest) :
    (key.set value request).filters = request.filters := by
  cases key <;> rfl

@[simp]
theorem ofRequest_filter (key : Key) (request : ListingRequest) (text : String) (value : Value) :
    key.ofRequest (request.filter text value) = key.ofRequest request := by
  cases key <;> rfl

end Key

theorem setKey?_eq (request : ListingRequest) (json : Json) (key : Key) :
    request.setKey? json key = (key.read? json).map (key.set · request) := by
  cases key <;> rfl

/-- Requests are equal if they hold the same under every known key and the same filters. -/
theorem ext_of_keys {request other : ListingRequest}
    (same : ∀ key : Key, key.ofRequest request = key.ofRequest other)
    (filtered : ∀ text, request.filters.get? text = other.filters.get? text) : request = other := by
  obtain ⟨page, perPage, pagination, search, sortKey, sortDirection, filters⟩ := request
  obtain ⟨page', perPage', pagination', search', sortKey', sortDirection', filters'⟩ := other
  obtain rfl : page = page' := same .page
  obtain rfl : perPage = perPage' := same .perPage
  obtain rfl : pagination = pagination' := same .pagination
  obtain rfl : search = search' := same .search
  obtain rfl : sortKey = sortKey' := same .sortKey
  obtain rfl : sortDirection = sortDirection' := same .sortDirection
  obtain rfl : filters = filters' := Dict.ext_of_get? filtered
  rfl

/-- Whether every member with a known key has a form of what that key can hold. -/
def Fits (members : List (String × Json)) : Prop :=
  ∀ (key : Key) (json : Json), (key.name, json) ∈ members → ∃ value, json = key.form value

/-- Where members go that are taken by a request: each known key gets the value of its member, every
other key becomes a filter, and whatever no member names stays as it was. -/
structure Routes (before : ListingRequest) (members : List (String × Json))
    (after : ListingRequest) : Prop where
  given : ∀ (key : Key) (json : Json), (key.name, json) ∈ members →
    json = key.form (key.ofRequest after)
  left : ∀ key : Key, key.name ∉ members.map Prod.fst →
    key.ofRequest after = key.ofRequest before
  filtered : ∀ text json, (text, json) ∈ members → (∀ key : Key, text ≠ key.name) →
    after.filters.get? text = some (.ofJson json)
  unnamed : ∀ text, text ∉ members.map Prod.fst → after.filters.get? text = before.filters.get? text
  unfiltered : ∀ key : Key, after.filters.get? key.name = before.filters.get? key.name

/-- Members go to one place only. -/
theorem Routes.unique {before first second : ListingRequest} {members : List (String × Json)}
    (routes : Routes before members first) (routes' : Routes before members second) :
    first = second := by
  refine ext_of_keys (fun key => ?_) (fun text => ?_)
  · by_cases named : key.name ∈ members.map Prod.fst
    · obtain ⟨⟨_, json⟩, member, rfl⟩ := List.mem_map.1 named
      apply Key.form_injective
      rw [← routes.given key json member, ← routes'.given key json member]
    · rw [routes.left key named, routes'.left key named]
  · by_cases known : ∃ key : Key, text = key.name
    · obtain ⟨key, rfl⟩ := known
      rw [routes.unfiltered, routes'.unfiltered]
    · by_cases named : text ∈ members.map Prod.fst
      · obtain ⟨⟨_, json⟩, member, rfl⟩ := List.mem_map.1 named
        have unknown := not_exists.1 known
        rw [routes.filtered _ json member unknown, routes'.filtered _ json member unknown]
      · rw [routes.unnamed text named, routes'.unnamed text named]

/-- What the members behind do not name stays as the members in front left it. -/
theorem Routes.append {before middle after : ListingRequest} {first second : List (String × Json)}
    (head : Routes before first middle) (tail : Routes middle second after)
    (apart : (first.map Prod.fst).Disjoint (second.map Prod.fst)) :
    Routes before (first ++ second) after := by
  have later {text : String} {json : Json} (member : (text, json) ∈ first) :
      text ∉ second.map Prod.fst := apart (List.mem_map_of_mem member)
  constructor
  case given =>
    intro key json member
    rcases List.mem_append.1 member with here | there
    · rw [tail.left key (later here)]
      exact head.given key json here
    · exact tail.given key json there
  case left =>
    intro key missing
    rw [List.map_append, List.mem_append, not_or] at missing
    rw [tail.left key missing.2, head.left key missing.1]
  case filtered =>
    intro text json member unknown
    rcases List.mem_append.1 member with here | there
    · rw [tail.unnamed text (later here), head.filtered text json here unknown]
    · exact tail.filtered text json there unknown
  case unnamed =>
    intro text missing
    rw [List.map_append, List.mem_append, not_or] at missing
    rw [tail.unnamed text missing.2, head.unnamed text missing.1]
  case unfiltered =>
    intro key
    rw [tail.unfiltered, head.unfiltered]

/-- Take one member. -/
def take? (request : ListingRequest) (member : String × Json) : Option ListingRequest :=
  match Key.ofName? member.1 with
  | none => some (request.filter member.1 (.ofJson member.2))
  | some key => request.setKey? member.2 key

theorem take?_of_known (request : ListingRequest) (key : Key) (json : Json) :
    request.take? (key.name, json) = (key.read? json).map (key.set · request) := by
  rw [take?, Key.ofName?_name]
  exact request.setKey?_eq json key

theorem take?_of_unknown (request : ListingRequest) {text : String}
    (unknown : ∀ key : Key, text ≠ key.name) (json : Json) :
    request.take? (text, json) = some (request.filter text (.ofJson json)) := by
  rw [take?, Key.ofName?_eq_none_iff.2 unknown]

/-- Members with distinct keys are taken one by one, since no known key comes twice. -/
theorem takeMembers_eq {seen : List Key} {members : List (String × Json)}
    (distinct : (members.map Prod.fst).Nodup)
    (unseen : ∀ key ∈ seen, key.name ∉ members.map Prod.fst) (request : ListingRequest) :
    takeMembers seen request members = members.foldlM take? request := by
  induction members generalizing seen request with
  | nil => rfl
  | cons member rest ih =>
    obtain ⟨text, json⟩ := member
    obtain ⟨first, others⟩ := List.nodup_cons.1 distinct
    rw [List.foldlM_cons, takeMembers, take?]
    cases known : Key.ofName? text with
    | none =>
      refine ih others (fun key old => ?_) _
      exact fun again => unseen key old (List.mem_cons_of_mem _ again)
    | some key =>
      obtain rfl := Key.ofName?_eq_some_iff.1 known
      -- neither has the key been seen nor does it come again
      have fresh : key ∉ seen := fun old => unseen key old List.mem_cons_self
      simp only [if_neg fresh]
      refine Option.bind_congr fun middle _ => ih others (fun other old => ?_) middle
      rcases List.mem_cons.1 old with rfl | old
      · exact first
      · exact fun again => unseen other old (List.mem_cons_of_mem _ again)

theorem routes_nil (request : ListingRequest) : Routes request [] request :=
  ⟨nofun, fun _ _ => rfl, nofun, fun _ _ => rfl, fun _ => rfl⟩

/-- A known key sets what it stands for. -/
theorem routes_set (request : ListingRequest) (key : Key) (value : key.Carrier) :
    Routes request [(key.name, key.form value)] (key.set value request) := by
  constructor
  case given =>
    intro other json member
    obtain ⟨names, rfl⟩ := Prod.mk.inj (List.mem_singleton.1 member)
    obtain rfl := Key.name_injective names
    rw [Key.ofRequest_set]
  case left =>
    intro other missing
    apply Key.ofRequest_set_of_ne
    rintro rfl
    exact missing (List.mem_singleton_self _)
  case filtered =>
    intro text json member unknown
    obtain ⟨rfl, _⟩ := Prod.mk.inj (List.mem_singleton.1 member)
    exact absurd rfl (unknown key)
  case unnamed =>
    intro text _
    rw [Key.filters_set]
  case unfiltered =>
    intro other
    rw [Key.filters_set]

/-- Any other key sets a filter. -/
theorem routes_filter (request : ListingRequest) {text : String}
    (unknown : ∀ key : Key, text ≠ key.name) (json : Json) :
    Routes request [(text, json)] (request.filter text (.ofJson json)) := by
  constructor
  case given =>
    intro key json member
    exact absurd (Prod.mk.inj (List.mem_singleton.1 member)).1.symm (unknown key)
  case left =>
    intro key _
    rw [Key.ofRequest_filter]
  case filtered =>
    intro other json' member _
    obtain ⟨rfl, rfl⟩ := Prod.mk.inj (List.mem_singleton.1 member)
    rw [filter, Dict.get?_insert, if_pos rfl]
  case unnamed =>
    intro other missing
    have differs : other ≠ text := fun same => missing (List.mem_singleton.2 same)
    rw [filter, Dict.get?_insert, if_neg differs]
  case unfiltered =>
    intro key
    rw [filter, Dict.get?_insert, if_neg (unknown key).symm]

theorem routes_of_take? {before after : ListingRequest} {member : String × Json}
    (taken : before.take? member = some after) : Routes before [member] after := by
  obtain ⟨text, json⟩ := member
  by_cases known : ∃ key : Key, text = key.name
  · obtain ⟨key, rfl⟩ := known
    rw [take?_of_known, Option.map_eq_some_iff] at taken
    obtain ⟨value, read, rfl⟩ := taken
    obtain rfl := Key.read?_eq_some_iff.1 read
    exact routes_set before key value
  · have unknown : ∀ key : Key, text ≠ key.name := not_exists.1 known
    rw [take?_of_unknown before unknown] at taken
    obtain rfl := Option.some.inj taken
    exact routes_filter before unknown json

/-- Taking members one by one routes all of them. -/
theorem routes_of_foldlM {before after : ListingRequest} {members : List (String × Json)}
    (distinct : (members.map Prod.fst).Nodup)
    (taken : members.foldlM take? before = some after) : Routes before members after := by
  induction members generalizing before with
  | nil =>
    obtain rfl := Option.some.inj taken
    exact routes_nil before
  | cons member rest ih =>
    obtain ⟨first, distinct⟩ := List.nodup_cons.1 distinct
    rw [List.foldlM_cons] at taken
    obtain ⟨middle, here, later⟩ := Option.bind_eq_some_iff.1 taken
    refine (routes_of_take? here).append (ih distinct later) ?_
    exact List.singleton_disjoint.2 first

theorem exists_take?_iff (before : ListingRequest) {member : String × Json} :
    (∃ after, before.take? member = some after) ↔ Fits [member] := by
  obtain ⟨text, json⟩ := member
  by_cases known : ∃ key : Key, text = key.name
  · obtain ⟨key, rfl⟩ := known
    rw [take?_of_known]
    constructor
    · rintro ⟨after, taken⟩ other json' member
      obtain ⟨names, rfl⟩ := Prod.mk.inj (List.mem_singleton.1 member)
      obtain rfl := Key.name_injective names
      obtain ⟨value, read, _⟩ := Option.map_eq_some_iff.1 taken
      exact ⟨value, Key.read?_eq_some_iff.1 read⟩
    · intro fits
      obtain ⟨value, rfl⟩ := fits key json (List.mem_singleton_self _)
      rw [Key.read?_eq_some_iff.2 rfl]
      exact ⟨_, rfl⟩
  · have unknown : ∀ key : Key, text ≠ key.name := not_exists.1 known
    rw [take?_of_unknown before unknown]
    refine ⟨fun _ key json' member => ?_, fun _ => ⟨_, rfl⟩⟩
    exact absurd (Prod.mk.inj (List.mem_singleton.1 member)).1.symm (unknown key)

theorem fits_cons_iff {member : String × Json} {rest : List (String × Json)} :
    Fits (member :: rest) ↔ Fits [member] ∧ Fits rest := by
  simp only [Fits, List.mem_cons, List.not_mem_nil, or_false]
  constructor
  · intro fits
    exact ⟨fun key json here => fits key json (.inl here),
      fun key json later => fits key json (.inr later)⟩
  · rintro ⟨first, later⟩ key json (here | behind)
    · exact first key json here
    · exact later key json behind

theorem exists_foldlM_iff (before : ListingRequest) {members : List (String × Json)} :
    (∃ after, members.foldlM take? before = some after) ↔ Fits members := by
  induction members generalizing before with
  | nil => exact ⟨fun _ => nofun, fun _ => ⟨before, rfl⟩⟩
  | cons member rest ih =>
    rw [fits_cons_iff, ← exists_take?_iff before, List.foldlM_cons]
    constructor
    · rintro ⟨after, taken⟩
      obtain ⟨middle, here, later⟩ := Option.bind_eq_some_iff.1 taken
      exact ⟨⟨middle, here⟩, (ih middle).1 ⟨after, later⟩⟩
    · rintro ⟨⟨middle, here⟩, fits⟩
      obtain ⟨after, later⟩ := (ih middle).2 fits
      exact ⟨after, Option.bind_eq_some_iff.2 ⟨middle, here, later⟩⟩

theorem ofMembers?_eq_some_iff {members : List (String × Json)}
    (distinct : (members.map Prod.fst).Nodup) {request : ListingRequest} :
    ofMembers? members = some request ↔ Fits members ∧ Routes default members request := by
  have one_by_one : ofMembers? members = members.foldlM take? default :=
    takeMembers_eq distinct (by simp) default
  rw [one_by_one]
  constructor
  · intro taken
    exact ⟨(exists_foldlM_iff default).1 ⟨request, taken⟩, routes_of_foldlM distinct taken⟩
  · rintro ⟨fits, routes⟩
    obtain ⟨after, taken⟩ := (exists_foldlM_iff default).2 fits
    obtain rfl := (routes_of_foldlM distinct taken).unique routes
    exact taken

/-- The request that an object with these members asks for. -/
structure Describes (members : List (String × Json)) (request : ListingRequest) : Prop where
  given : ∀ (key : Key) (json : Json), (key.name, json) ∈ members →
    json = key.form (key.ofRequest request)
  absent : ∀ key : Key, key.name ∉ members.map Prod.fst → key.ofRequest request = key.absent
  filters : ∀ text value, request.filters.get? text = some value ↔
    (∀ key : Key, text ≠ key.name) ∧ ∃ json, (text, json) ∈ members ∧ Value.ofJson json = value

theorem get?_default (text : String) : default.filters.get? text = none := rfl

/-- The filters of a request are the members with no known key. -/
theorem Routes.get?_iff {members : List (String × Json)} {request : ListingRequest}
    (routes : Routes default members request) {text : String} {value : Value} :
    request.filters.get? text = some value ↔
      (∀ key : Key, text ≠ key.name) ∧
        ∃ json, (text, json) ∈ members ∧ Value.ofJson json = value := by
  constructor
  · intro found
    have unknown (key : Key) : text ≠ key.name := by
      rintro rfl
      rw [routes.unfiltered, get?_default] at found
      contradiction
    refine ⟨unknown, ?_⟩
    by_cases named : text ∈ members.map Prod.fst
    · obtain ⟨⟨_, json⟩, member, rfl⟩ := List.mem_map.1 named
      rw [routes.filtered _ json member unknown] at found
      exact ⟨json, member, Option.some.inj found⟩
    · rw [routes.unnamed text named, get?_default] at found
      contradiction
  · rintro ⟨unknown, json, member, rfl⟩
    exact routes.filtered text json member unknown

theorem describes_iff {members : List (String × Json)} {request : ListingRequest} :
    Describes members request ↔ Routes default members request := by
  constructor
  · rintro ⟨given, absent, filters⟩
    refine ⟨given, ?_, ?_, ?_, ?_⟩
    · intro key missing
      rw [absent key missing, Key.ofRequest_default]
    · intro text json member unknown
      exact (filters text _).2 ⟨unknown, json, member, rfl⟩
    · intro text missing
      rw [get?_default, Option.eq_none_iff_forall_ne_some]
      intro value found
      obtain ⟨_, json, member, _⟩ := (filters text value).1 found
      exact missing (List.mem_map_of_mem member)
    · intro key
      rw [get?_default, Option.eq_none_iff_forall_ne_some]
      intro value found
      exact ((filters key.name value).1 found).1 key rfl
  · intro routes
    refine ⟨routes.given, ?_, fun text value => routes.get?_iff⟩
    intro key missing
    rw [routes.left key missing, Key.ofRequest_default]

def entry (member : JsonMember) : String × Json := (member.key, member.value)

/-- Whether an object can be taken as a request: the values of its known keys are written as they
stand, and every one is a form of what its key can hold. -/
structure IsRequest (members : List JsonMember) : Prop where
  written : ∀ member ∈ members, member.embedded → ∀ key : Key, member.key ≠ key.name
  fits : Fits (members.map entry)

theorem nodup_keys {members : List JsonMember}
    (distinct : (members.map JsonMember.key).Nodup) :
    ((members.map entry).map Prod.fst).Nodup := by
  rwa [List.map_map]

theorem ofText?_eq_some_iff {text : String} {members : List JsonMember}
    (parsed : JsonDocument.ofText? text = some (.object members))
    (distinct : (members.map JsonMember.key).Nodup) {request : ListingRequest} :
    ofText? text = some request ↔
      IsRequest members ∧ Describes (members.map entry) request := by
  have keys := nodup_keys distinct
  have written :
      (members.any fun member => member.embedded && (Key.ofName? member.key).isSome) = false ↔
        ∀ member ∈ members, member.embedded → ∀ key : Key, member.key ≠ key.name := by
    simp only [List.any_eq_false, Bool.and_eq_true, Option.isSome_iff_exists, not_and, not_exists,
      Key.ofName?_eq_some_iff, ne_eq]
  unfold ofText?
  rw [parsed]
  simp only [Option.ite_none_left_eq_some, Bool.not_eq_true, written]
  rw [describes_iff]
  constructor
  · rintro ⟨plain, taken⟩
    obtain ⟨fits, routes⟩ := (ofMembers?_eq_some_iff keys).1 taken
    exact ⟨⟨plain, fits⟩, routes⟩
  · rintro ⟨⟨plain, fits⟩, routes⟩
    exact ⟨plain, (ofMembers?_eq_some_iff keys).2 ⟨fits, routes⟩⟩

theorem exists_describes {members : List JsonMember} (accepted : IsRequest members)
    (distinct : (members.map JsonMember.key).Nodup) :
    ∃ request, Describes (members.map entry) request := by
  obtain ⟨request, taken⟩ := (exists_foldlM_iff default).2 accepted.fits
  exact ⟨request, describes_iff.2 (routes_of_foldlM (nodup_keys distinct) taken)⟩

theorem IsRequest.perm {members reordered : List JsonMember} (same : reordered.Perm members)
    (accepted : IsRequest members) : IsRequest reordered := by
  constructor
  · intro member listed
    exact accepted.written member (same.mem_iff.1 listed)
  · intro key json member
    exact accepted.fits key json ((same.map entry).mem_iff.1 member)

theorem Describes.perm {members reordered : List (String × Json)} (same : reordered.Perm members)
    {request : ListingRequest} (described : Describes members request) :
    Describes reordered request := by
  constructor
  · intro key json member
    exact described.given key json (same.mem_iff.1 member)
  · intro key missing
    exact described.absent key (mt (same.map Prod.fst).mem_iff.2 missing)
  · intro text value
    simp only [described.filters, same.mem_iff]

/-- An object with distinct keys is taken as a request if and only if each known key is absent or
has a value of its kind. The request holds what the known keys say, or what stands for them where
they are absent; its filters are all the other members, and no known key is among them. The order of
the members does not count. -/
theorem members_are_routed_once {text : String} {members : List JsonMember}
    (parsed : JsonDocument.ofText? text = some (.object members))
    (distinct : (members.map JsonMember.key).Nodup) :
    ((∃ request, ofText? text = some request) ↔ IsRequest members) ∧
    (∀ request, ofText? text = some request ↔
      IsRequest members ∧ Describes (members.map entry) request) ∧
    (∀ request, ofText? text = some request →
      ∀ key : Key, request.filters.get? key.name = none) ∧
    ∀ other reordered, JsonDocument.ofText? other = some (.object reordered) →
      reordered.Perm members → ofText? other = ofText? text := by
  have taken (request : ListingRequest) : ofText? text = some request ↔
      IsRequest members ∧ Describes (members.map entry) request :=
    ofText?_eq_some_iff parsed distinct
  refine ⟨?_, taken, ?_, ?_⟩
  · constructor
    · rintro ⟨request, read⟩
      exact ((taken request).1 read).1
    · intro accepted
      obtain ⟨request, described⟩ := exists_describes accepted distinct
      exact ⟨request, (taken request).2 ⟨accepted, described⟩⟩
  · intro request read key
    obtain ⟨_, described⟩ := (taken request).1 read
    rw [Option.eq_none_iff_forall_ne_some]
    intro value found
    exact ((described.filters key.name value).1 found).1 key rfl
  · intro other reordered parsed' same
    have distinct' : (reordered.map JsonMember.key).Nodup := (same.map _).nodup_iff.2 distinct
    ext request
    rw [taken, ofText?_eq_some_iff parsed' distinct']
    constructor
    · rintro ⟨accepted, described⟩
      exact ⟨accepted.perm same.symm, described.perm (same.map entry).symm⟩
    · rintro ⟨accepted, described⟩
      exact ⟨accepted.perm same, described.perm (same.map entry)⟩

/-- Two orders of one object. -/
theorem members_are_routed_once_of_reordered :
    ∃ request,
      ofText? "\x7b\"page\":2,\"status\":\"active\",\"search\":null\x7d" = some request ∧
      ofText? "\x7b\"search\":null,\"page\":2,\"status\":\"active\"\x7d" = some request ∧
      (request.page, request.perPage, request.search) = (2, 0, none) ∧
      request.filters.get? "status" = some (.text "active") ∧
      request.filters.get? "page" = none := by
  let page : JsonMember := ⟨"page", .ofInt64 2, false⟩
  let status : JsonMember := ⟨"status", .string "active", false⟩
  let search : JsonMember := ⟨"search", .null, false⟩
  let request : ListingRequest := { default.filter "status" (.text "active") with page := 2 }
  have parsed : JsonDocument.ofText?
      "\x7b\"page\":2,\"status\":\"active\",\"search\":null\x7d" =
        some (.object [page, status, search]) := rfl
  have parsed' : JsonDocument.ofText?
      "\x7b\"search\":null,\"page\":2,\"status\":\"active\"\x7d" =
        some (.object [search, page, status]) := rfl
  have read : ofText? "\x7b\"page\":2,\"status\":\"active\",\"search\":null\x7d" =
      some request := by
    rw [ofText?, parsed]
    rfl
  have reordered : ([search] ++ [page, status]).Perm ([page, status] ++ [search]) :=
    List.perm_append_comm
  have distinct : ([page, status, search].map JsonMember.key).Nodup := by decide
  obtain ⟨_, taken, unfiltered, order⟩ := members_are_routed_once parsed distinct
  obtain ⟨_, described⟩ := (taken request).1 read
  refine ⟨request, read, (order _ _ parsed' reordered).trans read, rfl, ?_, ?_⟩
  · refine (described.filters "status" _).2 ⟨?_, .string "active", ?_, rfl⟩
    · intro key
      cases key <;> decide
    · simp [entry, page, status, search]
  · exact unfiltered request read .page

end ListingRequest

end DataAccess
