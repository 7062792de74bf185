import DataAccess.Proofs.Entity.Identity
import DataAccess.Proofs.Plan.Binding
import DataAccess.Proofs.Repository.Guard

/-! Rows as a backend stores them. A stored row is a tuple: it has a datum in each column of its
table. Names of columns, and which data count as equal, are up to the backend; a predicate is read on
a tuple with the three truth values of SQL, and a statement reaches the tuples on which it is true.
-/
namespace DataAccess

open Sql

/-- The truth values of SQL. -/
inductive Truth where
  | no
  | unknown
  | yes
deriving DecidableEq

namespace Truth

def rank : Truth → Nat
  | no => 0
  | unknown => 1
  | yes => 2

theorem rank_injective : Function.Injective rank := by
  intro first second same
  cases first <;> cases second <;> first | rfl | contradiction

instance : LinearOrder Truth := .lift' rank rank_injective

instance : BoundedOrder Truth where
  top := yes
  le_top value := by cases value <;> decide
  bot := no
  bot_le value := by cases value <;> decide

end Truth

/-- What a value is in a column: null, or the one scalar that a driver binds. -/
def Value.datum? (value : Value) : Option Argument :=
  match value.slots with
  | [none] => some .null
  | [some scalar] => (Argument.ofValue scalar).toOption
  | _ => none

/-- An integer that is carried is stored as a signed word, if that can hold it. -/
theorem IdValue.datum?_of_integer? {carried : IdValue} {n : Int}
    (denotes : carried.integer? = some n) :
    carried.toValue.datum? = if n < powerOfTwo 63 then some (.int (Int64.ofInt n)) else none := by
  cases carried with
  | text s => contradiction
  | int m =>
    obtain rfl : m.toInt = n := Option.some.inj denotes
    have fits : m.toInt < powerOfTwo 63 := m.toInt_lt
    rw [if_pos fits, Int64.ofInt_toInt]
    rfl
  | uint m =>
    obtain rfl : (m.toNat : Int) = n := Option.some.inj denotes
    have datum : (toValue (.uint m)).datum? = (Argument.ofValue (.uint m)).toOption := rfl
    rw [datum, Argument.ofValue_uint]
    by_cases fits : m.toNat < powerOfTwo 63
    · rw [if_pos (Int.ofNat_lt.2 fits), if_neg (by simpa [Value.isTooLarge] using fits)]
      rfl
    · rw [if_neg (mt Int.ofNat_lt.1 fits), if_pos (by simpa [Value.isTooLarge] using fits)]
      rfl

theorem IdValue.datum?_ne_null (id : IdValue) : id.toValue.datum? ≠ some .null := by
  cases integer : id.integer? with
  | none =>
    cases id with
    | text s => nofun
    | _ => contradiction
  | some n =>
    rw [datum?_of_integer? integer]
    split <;> nofun

/-- An identity that has been read is bound as the datum that it was read from. -/
theorem Schema.datum?_of_readId {schema : Schema} {carried : IdValue} {id : schema.idType.Carrier}
    (read : schema.readId carried = .ok id) :
    (schema.idValue id).toValue.datum? = carried.toValue.datum? := by
  unfold readId at read
  split at read
  case h_1 id' found =>
    obtain rfl := Except.ok.inj read
    obtain ⟨s, rfl, same⟩ | ⟨n, denotes, same⟩ := IdType.denotes_of_ofIdValue? found
    · rw [idValue, same]
    · rw [idValue, IdValue.datum?_of_integer? denotes, IdValue.datum?_of_integer? same]
  case h_2 => cases read

theorem mem_of_lookup {α β : Type} [BEq α] [LawfulBEq α] {entries : List (α × β)} {key : α}
    {value : β} (found : entries.lookup key = some value) : (key, value) ∈ entries := by
  obtain ⟨_, _, rfl, _⟩ := List.lookup_eq_some_iff.1 found
  exact List.mem_append_right _ List.mem_cons_self

/-- A stored row. -/
abbrev Tuple (κ : Type) := κ → Argument

/-- The table of an entity, as its backend has it. -/
structure Catalog (schema : Schema) (κ : Type) where
  /-- the column that a name means -/
  column? : String → Option κ
  /-- the column of the identity -/
  key : κ
  /-- whether two data count as equal, none of them null -/
  equal : Argument → Argument → Bool
  equal_self : ∀ datum, equal datum datum
  keyed : column? schema.idColumn = some key
  marked : ∀ marker ∈ schema.softDelete, (column? marker).isSome
  qualified : ∀ name, name = schema.idColumn ∨ name ∈ schema.softDelete →
    column? (schema.qualified name) = column? name
  unreserved : ∀ name column, column? name = some column → IsUnreserved name.toList

instance : DecidablePred IsUnreserved := fun _ => inferInstanceAs (Decidable (¬_))

namespace Catalog

/-- The catalog of a table whose columns have the given names, where data are equal only to
themselves. -/
def ofNames {schema : Schema} {κ : Type} (names : List (String × κ)) (key : κ)
    (keyed : names.lookup schema.idColumn = some key)
    (marked : ∀ marker ∈ schema.softDelete, (names.lookup marker).isSome)
    (qualified : ∀ name, name = schema.idColumn ∨ name ∈ schema.softDelete →
      names.lookup (schema.qualified name) = names.lookup name)
    (unreserved : ∀ entry ∈ names, IsUnreserved entry.1.toList) : Catalog schema κ where
  column? name := names.lookup name
  key
  equal first second := decide (first = second)
  equal_self _ := decide_eq_true rfl
  keyed
  marked
  qualified
  unreserved name column known := unreserved (name, column) (mem_of_lookup known)

variable {schema : Schema} {κ : Type} (catalog : Catalog schema κ)

def marker? : Option κ := schema.softDelete.bind catalog.column?

/-- Whether a datum equals a value; beside a null this is unknown. -/
def compare (datum : Argument) (value : Value) : Truth :=
  match value.datum? with
  | some given =>
    if datum = .null ∨ given = .null then .unknown
    else if catalog.equal datum given then .yes else .no
  | none => .unknown

/-- What is true of the datum in a column, by the name of the column. -/
def truthAt (tuple : Tuple κ) (name : List Char) (truth : Argument → Truth) : Truth :=
  match catalog.column? (String.ofList name) with
  | some column => truth (tuple column)
  | none => .unknown

/-- What comparisons with a value and with null say of a tuple. Of other predicates nothing is known.
-/
def truth (tuple : Tuple κ) : Atom × List Value → Truth
  | ([.word name, .operator ['='], .mark '?'], [value]) =>
    catalog.truthAt tuple name fun datum => catalog.compare datum value
  | ([.word name, .word ['I', 'S'], .word ['N', 'U', 'L', 'L']], []) =>
    catalog.truthAt tuple name fun datum => if datum = .null then .yes else .no
  | _ => .unknown

variable {catalog}

theorem compare_eq_yes {datum : Argument} {value : Value} :
    catalog.compare datum value = .yes ↔ ∃ given, value.datum? = some given ∧
      datum ≠ .null ∧ given ≠ .null ∧ catalog.equal datum given := by
  unfold compare
  cases value.datum? with
  | none => simp
  | some given =>
    dsimp only
    by_cases nulls : datum = .null ∨ given = .null
    · rw [if_pos nulls]
      simp only [reduceCtorEq, Option.some.injEq, exists_eq_left', false_iff]
      tauto
    · rw [if_neg nulls]
      rw [not_or] at nulls
      by_cases equal : catalog.equal datum given <;> simp [equal, nulls]

theorem compare_identity {datum : Argument} {id : IdValue}
    (given : id.toValue.datum? = some datum) : catalog.compare datum id.toValue = .yes := by
  have present : datum ≠ .null := by
    rintro rfl
    exact id.datum?_ne_null given
  exact compare_eq_yes.2 ⟨datum, given, present, present, catalog.equal_self datum⟩

theorem compare_of_readId {carried : IdValue} {id : schema.idType.Carrier}
    (read : schema.readId carried = .ok id) (datum : Argument) :
    catalog.compare datum (schema.idValue id).toValue = catalog.compare datum carried.toValue := by
  unfold compare
  rw [Schema.datum?_of_readId read]

theorem truth_equal {tuple : Tuple κ} {name : String} {column : κ}
    (known : catalog.column? name = some column) (value : Value) :
    catalog.truth tuple (equalAtom name, [value]) = catalog.compare (tuple column) value := by
  simp only [equalAtom, truth, truthAt, String.ofList_toList, known]

theorem truth_null {tuple : Tuple κ} {name : String} {column : κ}
    (known : catalog.column? name = some column) :
    catalog.truth tuple (nullAtom name, []) = if tuple column = .null then .yes else .no := by
  have atom : nullAtom name =
      [.word name.toList, .word ['I', 'S'], .word ['N', 'U', 'L', 'L']] := rfl
  simp only [atom, truth, truthAt, String.ofList_toList, known]

end Catalog

namespace Planner

/-- A select that reads from the table of the entity the first of the rows that a condition keeps. -/
structure Selects {schema : Schema} (planner : Planner schema) (owned : Condition) (locale : String)
    (select : Statement) (predicate : Fragment) : Prop where
  restricts : (planner.visible (some owned)).predicate? = some predicate
  selects : select = Fragment.render
    ⟨"SELECT " ++ planner.selectList false locale ++
      (" FROM " ++ schema.table ++ " WHERE " ++ predicate.sql) ++ schema.leastRowText,
      predicate.args⟩ planner.dialect

variable {schema : Schema} (planner : Planner schema) (named : schema.IsNamed)
  {id : schema.idType.Carrier} {owned : Condition} (compared : schema.idCondition id = .ok owned)
include named compared

/-- What a query for an identity says of a row: whether the row has it, and the deletion marker. -/
theorem truth?_identity {τ : Type} [Lattice τ] [BoundedOrder τ] (truth : Atom × List Value → τ) :
    (planner.visible (some owned)).truth? truth =
      some (truth (schema.identityAtom id) ⊓ planner.live truth) := by
  obtain ⟨plain, bound⟩ := Schema.idCondition_spec named compared
  have unrestricted : ({ planner.wholeTable with joins := planner.spec.joins } : Query).clauses = [] :=
    rfl
  have whole := planner.truth?_restrict named unrestricted
    (fun leaf member => (plain leaf member).isWellFormed)
    (fun leaf member => (plain leaf member).takesArguments) truth
  rw [bound] at whole
  exact whole

/-- A query for an identity has a predicate, since not every row has every identity. -/
theorem exists_predicate : ∃ predicate, (planner.visible (some owned)).predicate? = some predicate := by
  have never := planner.truth?_identity named compared fun _ => false
  rw [min_eq_left (Bool.false_le _)] at never
  unfold Query.truth? at never
  cases stated : (planner.visible (some owned)).predicate? with
  | none =>
    rw [stated] at never
    cases never
  | some predicate => exact ⟨predicate, rfl⟩

theorem selects_of_byId (unjoined : planner.spec.joins = []) {locale : String} {select : Statement}
    (reads : planner.byId id locale = .ok select) :
    ∃ predicate, planner.Selects owned locale select predicate := by
  obtain ⟨predicate, stated⟩ := planner.exists_predicate named compared
  obtain ⟨_, compared', reads⟩ := exists_of_bind reads
  obtain rfl := Except.ok.inj (compared.symm.trans compared')
  refine ⟨predicate, stated, ?_⟩
  have table : (planner.visible (some owned)).table = schema.table := by
    unfold visible Query.restrict
    cases planner.scope? <;> rfl
  have joins : (planner.visible (some owned)).joins = [] := by
    rw [visible_eq]
    exact unjoined
  have source : (planner.visible (some owned)).source =
      ⟨" FROM " ++ schema.table ++ " WHERE " ++ predicate.sql, predicate.args⟩ := by
    simp only [Query.source, stated, table, joins]
    simp
  rw [first_eq_select reads, source]

end Planner

namespace Catalog

variable {schema : Schema} {κ : Type} (catalog : Catalog schema κ)

def HasId (id : schema.idType.Carrier) (tuple : Tuple κ) : Prop :=
  catalog.compare (tuple catalog.key) (schema.idValue id).toValue = .yes

/-- Whether a planner sees a tuple: one with a deletion marker is hidden, unless deleted rows are
asked for. -/
def Shows (planner : Planner schema) (tuple : Tuple κ) : Prop :=
  planner.unscoped = false → ∀ marker ∈ catalog.marker?, tuple marker = .null

variable {catalog}

theorem live_eq_top {planner : Planner schema} {tuple : Tuple κ} :
    planner.live (catalog.truth tuple) = ⊤ ↔ catalog.Shows planner tuple := by
  unfold Planner.live Planner.scope? Shows marker?
  cases planner.unscoped with
  | true => simp
  | false =>
    cases marked : schema.softDelete with
    | none => simp
    | some marker =>
      obtain ⟨column, known⟩ := Option.isSome_iff_exists.1 (catalog.marked marker marked)
      have null : catalog.truth tuple (nullAtom (schema.qualified marker), []) =
          if tuple column = .null then .yes else .no :=
        truth_null ((catalog.qualified marker (.inr marked)).trans known)
      by_cases clear : tuple column = .null
      · simp [known, null, clear]
        rfl
      · simp [known, null, clear]

/-- A query for an identity keeps the tuple that has it, if the planner sees that. -/
theorem keeps_identity_iff {planner : Planner schema} (named : schema.IsNamed)
    {id : schema.idType.Carrier} {owned : Condition} (compared : schema.idCondition id = .ok owned)
    (tuple : Tuple κ) : (planner.visible (some owned)).Keeps (catalog.truth tuple) ↔
      catalog.HasId id tuple ∧ catalog.Shows planner tuple := by
  have owner : catalog.truth tuple (schema.identityAtom id) =
      catalog.compare (tuple catalog.key) (schema.idValue id).toValue :=
    truth_equal ((catalog.qualified _ (.inl rfl)).trans catalog.keyed) _
  rw [Query.Keeps, planner.truth?_identity named compared, Option.some_inj, inf_eq_top_iff,
    live_eq_top, owner]
  rfl

end Catalog

end DataAccess
