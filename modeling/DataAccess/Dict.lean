/-! Dictionaries from texts to values, kept as lists of entries in ascending key order. Keys are
ordered by their characters' numbers, so two dictionaries with the same entries are the same list,
and iteration always visits keys in that order. -/
namespace DataAccess

universe u

variable {α : Type u}

/-- Put an entry into an ascending list, in the place of one with the same key if there is one. -/
def insertEntry (key : String) (value : α) : List (String × α) → List (String × α)
  | [] => [(key, value)]
  | (other, kept) :: rest =>
    if key < other then (key, value) :: (other, kept) :: rest
    else if key = other then (key, value) :: rest
    else (other, kept) :: insertEntry key value rest

def Ascending (entries : List (String × α)) : Prop :=
  entries.Pairwise fun first second => first.1 < second.1

theorem mem_insertEntry {key : String} {value : α} {entries : List (String × α)}
    {entry : String × α} (h : entry ∈ insertEntry key value entries) :
    entry = (key, value) ∨ entry ∈ entries := by
  induction entries with
  | nil => exact .inl (List.mem_singleton.1 h)
  | cons head rest ih =>
    obtain ⟨other, kept⟩ := head
    unfold insertEntry at h
    split at h
    · exact (List.mem_cons.1 h).imp_right id
    · split at h
      · exact (List.mem_cons.1 h).imp_right (List.mem_cons_of_mem _)
      · rcases List.mem_cons.1 h with rfl | h
        · exact .inr List.mem_cons_self
        · exact (ih h).imp_right (List.mem_cons_of_mem _)

theorem mem_insertEntry_iff (key : String) (value : α) {entries : List (String × α)}
    (ordered : Ascending entries) {entry : String × α} :
    entry ∈ insertEntry key value entries ↔
      entry = (key, value) ∨ entry.1 ≠ key ∧ entry ∈ entries := by
  induction entries with
  | nil => simp [insertEntry]
  | cons head rest ih =>
    obtain ⟨other, kept⟩ := head
    obtain ⟨first, ordered⟩ := List.pairwise_cons.1 ordered
    have behind (member : entry ∈ rest) : other < entry.1 := first entry member
    unfold insertEntry
    split
    next below =>
      have different (member : entry ∈ (other, kept) :: rest) : entry.1 ≠ key := by
        rintro rfl
        rcases List.mem_cons.1 member with rfl | later
        · exact String.lt_irrefl _ below
        · exact String.lt_irrefl _ (String.lt_trans below (behind later))
      rw [List.mem_cons]
      exact or_congr_right ⟨fun member => ⟨different member, member⟩, And.right⟩
    next notBelow =>
      split
      next equal =>
        subst equal
        have different (member : entry ∈ rest) : entry.1 ≠ key := by
          rintro rfl
          exact String.lt_irrefl _ (behind member)
        rw [List.mem_cons, List.mem_cons]
        refine or_congr_right ⟨fun member => ⟨different member, .inr member⟩, ?_⟩
        rintro ⟨apart, rfl | member⟩
        · exact absurd rfl apart
        · exact member
      next apart =>
        rw [List.mem_cons, List.mem_cons, ih ordered]
        constructor
        · rintro (rfl | rfl | ⟨different, member⟩)
          · exact .inr ⟨Ne.symm apart, .inl rfl⟩
          · exact .inl rfl
          · exact .inr ⟨different, .inr member⟩
        · rintro (rfl | ⟨different, rfl | member⟩)
          · exact .inr (.inl rfl)
          · exact .inl rfl
          · exact .inr (.inr ⟨different, member⟩)

theorem ascending_insertEntry (key : String) (value : α) {entries : List (String × α)}
    (ordered : Ascending entries) : Ascending (insertEntry key value entries) := by
  induction entries with
  | nil => exact List.pairwise_singleton _ _
  | cons head rest ih =>
    obtain ⟨other, kept⟩ := head
    obtain ⟨first, ordered⟩ := List.pairwise_cons.1 ordered
    unfold insertEntry
    split
    next below =>
      refine List.pairwise_cons.2 ⟨fun entry member => ?_, List.pairwise_cons.2 ⟨first, ordered⟩⟩
      rcases List.mem_cons.1 member with rfl | member
      · exact below
      · exact String.lt_trans below (first entry member)
    next notBelow =>
      split
      next equal =>
        exact List.pairwise_cons.2 ⟨fun entry member => equal ▸ first entry member, ordered⟩
      next different =>
        have above : other < key :=
          Std.lt_of_le_of_ne (String.not_lt.1 notBelow) (Ne.symm different)
        refine List.pairwise_cons.2 ⟨fun entry member => ?_, ih ordered⟩
        rcases mem_insertEntry member with rfl | member
        · exact above
        · exact first entry member

/-- A dictionary with text keys; each key has one value. -/
structure Dict (α : Type u) where
  entries : List (String × α)
  ascending : Ascending entries

namespace Dict

def empty : Dict α := ⟨[], List.Pairwise.nil⟩

instance : Inhabited (Dict α) := ⟨empty⟩

def insert (dict : Dict α) (key : String) (value : α) : Dict α :=
  ⟨insertEntry key value dict.entries, ascending_insertEntry key value dict.ascending⟩

def erase (dict : Dict α) (key : String) : Dict α :=
  ⟨dict.entries.filter fun entry => entry.1 ≠ key, dict.ascending.filter _⟩

def get? (dict : Dict α) (key : String) : Option α :=
  (dict.entries.find? fun entry => entry.1 = key).map Prod.snd

theorem find?_eq_some_of_mem {entries : List (String × α)} (ordered : Ascending entries)
    {entry : String × α} (member : entry ∈ entries) :
    (entries.find? fun other => other.1 = entry.1) = some entry := by
  induction entries with
  | nil => contradiction
  | cons head rest ih =>
    obtain ⟨first, ordered⟩ := List.pairwise_cons.1 ordered
    rcases List.mem_cons.1 member with rfl | later
    · exact List.find?_cons_of_pos (decide_eq_true rfl)
    · have different : head.1 ≠ entry.1 := fun same =>
        String.lt_irrefl entry.1 (same ▸ first entry later)
      rw [List.find?_cons_of_neg (by simpa using different), ih ordered later]

/-- What a key has is its entry. -/
theorem get?_eq_some_iff {dict : Dict α} {key : String} {value : α} :
    dict.get? key = some value ↔ (key, value) ∈ dict.entries := by
  unfold get?
  constructor
  · intro found
    obtain ⟨⟨other, kept⟩, first, rfl⟩ := Option.map_eq_some_iff.1 found
    have same : other = key := by simpa using List.find?_some first
    exact same ▸ List.mem_of_find?_eq_some first
  · intro member
    rw [find?_eq_some_of_mem dict.ascending member]
    rfl

theorem get?_insert (dict : Dict α) (key other : String) (value : α) :
    (dict.insert key value).get? other = if other = key then some value else dict.get? other := by
  ext kept
  rw [get?_eq_some_iff, insert, mem_insertEntry_iff key value dict.ascending]
  split
  next same => simp [same, eq_comm]
  next apart => simp [apart, get?_eq_some_iff]

theorem get?_erase (dict : Dict α) (key other : String) :
    (dict.erase key).get? other = if other = key then none else dict.get? other := by
  ext kept
  rw [get?_eq_some_iff, erase, List.mem_filter]
  split
  next same => simp [same]
  next apart => simp [apart, get?_eq_some_iff]

def size (dict : Dict α) : Nat := dict.entries.length

def isEmpty (dict : Dict α) : Bool := dict.entries.isEmpty

/-- The dictionary of a list of entries; the last one with a key counts. -/
def ofList (entries : List (String × α)) : Dict α :=
  entries.foldl (fun dict entry => dict.insert entry.1 entry.2) empty

end Dict

end DataAccess
