import DataAccess.Engine.Statement
import DataAccess.Proofs.Entity.Identity
import DataAccess.Proofs.Plan.Binding

/-! Identities on their way to the backend and back. An identity is a text or an integer, whichever
word carries it. What is bound, stored and read back means what was sent, so an identity comes back
as itself or is refused: by the driver if no signed word holds it, and by its type if that cannot.
-/
namespace DataAccess

/-- What an identity is, however it is carried. -/
inductive Meaning where
  | text (value : String)
  | integer (value : Int)

namespace IdValue

def meaning : IdValue → Meaning
  | text s => .text s
  | int n => .integer n.toInt
  | uint n => .integer n.toNat

theorem meaning_of_integer? {carried : IdValue} {n : Int} (integer : carried.integer? = some n) :
    carried.meaning = .integer n := by
  cases carried with
  | text s => contradiction
  | int m => exact congrArg Meaning.integer (Option.some.inj integer)
  | uint m => exact congrArg Meaning.integer (Option.some.inj integer)

end IdValue

namespace IdType

/-- What an identity of a type is. -/
def meaning : (type : IdType) → type.Carrier → Meaning
  | text, s => .text s
  | i32, n => .integer n.toInt
  | i64, n => .integer n.toInt
  | u32, n => .integer n.toNat
  | u64, n => .integer n.toNat

/-- Going to the backend widens an identity and does not alter it. -/
theorem meaning_toIdValue (type : IdType) (id : type.Carrier) :
    (type.toIdValue id).meaning = type.meaning id := by
  cases type with
  | text => rfl
  | i32 =>
    have low := Int32.le_toInt id
    have high := Int32.toInt_lt id
    have wide : (Int64.ofInt (Int32.toInt id)).toInt = Int32.toInt id := by
      apply Int64.toInt_ofInt_of_le <;> omega
    exact congrArg Meaning.integer wide
  | i64 => rfl
  | u32 =>
    have small : UInt32.toNat id < 2 ^ 64 := by
      have := UInt32.toNat_lt id
      omega
    exact congrArg (fun n : Nat => Meaning.integer n) (UInt64.toNat_ofNat_of_lt' small)
  | u64 => rfl

/-- The integer of an identity is one that its type holds, and that integer's identity is it. -/
theorem holds_of_meaning {type : IdType} {id : type.Carrier} {n : Int}
    (denotes : type.meaning id = .integer n) : type.holds n ∧ type.ofInt n = id := by
  cases type with
  | text => contradiction
  | i32 =>
    obtain rfl := Meaning.integer.inj denotes
    exact ⟨decide_eq_true ⟨Int32.le_toInt id, Int32.toInt_lt id⟩, Int32.ofInt_toInt id⟩
  | i64 =>
    obtain rfl := Meaning.integer.inj denotes
    exact ⟨decide_eq_true ⟨Int64.le_toInt id, Int64.toInt_lt id⟩, Int64.ofInt_toInt id⟩
  | u32 =>
    obtain rfl := Meaning.integer.inj denotes
    have small := UInt32.toNat_lt id
    refine ⟨decide_eq_true ⟨Int.natCast_nonneg _, Int.ofNat_lt.2 small⟩, ?_⟩
    exact (congrArg UInt32.ofNat (Int.toNat_natCast _)).trans UInt32.ofNat_toNat
  | u64 =>
    obtain rfl := Meaning.integer.inj denotes
    have small := UInt64.toNat_lt id
    refine ⟨decide_eq_true ⟨Int.natCast_nonneg _, Int.ofNat_lt.2 small⟩, ?_⟩
    exact (congrArg UInt64.ofNat (Int.toNat_natCast _)).trans UInt64.ofNat_toNat

/-- An identity is read off everything that means it, and off nothing else. -/
theorem ofIdValue?_eq_some_iff {type : IdType} {carried : IdValue} {id : type.Carrier} :
    type.ofIdValue? carried = some id ↔ carried.meaning = type.meaning id := by
  constructor
  · intro read
    rw [← meaning_toIdValue]
    obtain ⟨s, rfl, sent⟩ | ⟨n, integer, sent⟩ := denotes_of_ofIdValue? read
    · rw [sent]
    · rw [IdValue.meaning_of_integer? integer, IdValue.meaning_of_integer? sent]
  · intro denotes
    cases integer : carried.integer? with
    | none =>
      cases carried with
      | text s =>
        cases type with
        | text =>
          obtain rfl := Meaning.text.inj denotes
          rfl
        | _ => contradiction
      | _ => contradiction
    | some n =>
      rw [IdValue.meaning_of_integer? integer] at denotes
      have number : type ≠ .text := by
        rintro rfl
        contradiction
      obtain ⟨holds, same⟩ := holds_of_meaning denotes.symm
      rw [ofIdValue?_of_number number, integer, Option.bind_some, if_pos holds, same]

end IdType

namespace Schema

variable {schema : Schema}

theorem readId_eq_ok_iff {carried : IdValue} {id : schema.idType.Carrier} :
    schema.readId carried = .ok id ↔ carried.meaning = schema.idType.meaning id := by
  rw [← IdType.ofIdValue?_eq_some_iff]
  unfold readId
  constructor
  · intro read
    split at read
    · next found => rw [found, Except.ok.inj read]
    · cases read
  · intro found
    rw [found]

/-- What is no identity of the type is a configuration error, which names it. -/
theorem readId_refused {carried : IdValue}
    (foreign : ∀ id, carried.meaning ≠ schema.idType.meaning id) :
    schema.readId carried = .error (.configuration (.identityMismatch carried schema.idType)) := by
  unfold readId
  split
  · next found => exact absurd (IdType.ofIdValue?_eq_some_iff.1 found) (foreign _)
  · rfl

end Schema

/-- What a bound argument is, if it is a text or an integer. -/
def Argument.meaning? : Argument → Option Meaning
  | text s => some (.text s)
  | int n => some (.integer n.toInt)
  | _ => none

/-- How a backend stores a text or an integer that has been bound: an integer in a column of any
width. -/
inductive Argument.StoredAs : Argument → Cell → Prop
  | text (s : String) : StoredAs (.text s) (.text s)
  | smallint (n : Int64) : StoredAs (.int n) (.smallint n)
  | integer (n : Int64) : StoredAs (.int n) (.integer n)
  | bigint (n : Int64) : StoredAs (.int n) (.bigint n)

/-- How an identity that has been bound is read back: in front of a row, or as the one that the
backend inserted last. -/
inductive Argument.ReadBack : Argument → Except DataError IdValue → Prop
  | row {argument : Argument} {cell : Cell} (stored : argument.StoredAs cell) (column : String)
    (rest : ResultRow) : ReadBack argument (Engine.identityOf ((column, cell) :: rest))
  | lastInserted {reply : Reply} {n : Int64} (reported : reply.lastId = some n) :
    ReadBack (.int n) (Engine.lastInserted reply)

/-- What is read back means what was bound. -/
theorem Argument.ReadBack.exists_identity {argument : Argument} {answer : Except DataError IdValue}
    (back : argument.ReadBack answer) :
    ∃ carried, answer = .ok carried ∧ argument.meaning? = some carried.meaning := by
  cases back with
  | row stored column rest =>
    cases stored with
    | text s => exact ⟨.text s, rfl, rfl⟩
    | smallint n => exact ⟨.int n, rfl, rfl⟩
    | integer n => exact ⟨.int n, rfl, rfl⟩
    | bigint n => exact ⟨.int n, rfl, rfl⟩
  | @lastInserted reply n reported =>
    refine ⟨.int n, ?_, rfl⟩
    unfold Engine.lastInserted
    rw [reported]

/-- An identity is bound as what it means, or it is an integer beyond the signed words. -/
theorem IdValue.bound_or_tooLarge (carried : IdValue) :
    (∃ argument, Argument.ofValue carried.toValue = .ok argument ∧
      argument.meaning? = some carried.meaning ∧
      ∀ n, carried.meaning = .integer n → n < 2 ^ 63) ∨
    ∃ n : UInt64, Argument.ofValue carried.toValue = .error (.configuration (.unsignedTooLarge n)) ∧
      carried.meaning = .integer n.toNat ∧ 2 ^ 63 ≤ n.toNat := by
  cases carried with
  | text s => exact .inl ⟨.text s, rfl, rfl, nofun⟩
  | int m =>
    refine .inl ⟨.int m, rfl, rfl, ?_⟩
    rintro n ⟨⟩
    exact m.toInt_lt
  | uint m =>
    by_cases fits : m.toNat < 2 ^ 63
    · have word : (Int64.ofNat m.toNat).toInt = m.toNat := Int64.toInt_ofNat_of_lt fits
      refine .inl ⟨.int (Int64.ofNat m.toNat), if_pos fits, ?_, ?_⟩
      · rw [Argument.meaning?, word]
        rfl
      · rintro n ⟨⟩
        omega
    · exact .inr ⟨m, if_neg fits, rfl, Nat.le_of_not_lt fits⟩

theorem Statement.bind_singleton (sql : String) (value : Value) :
    Statement.bind ⟨sql, [value]⟩ = (Argument.ofValue value).map ([·]) := by
  unfold Statement.bind
  rw [List.mapM_cons, List.mapM_nil]
  cases Argument.ofValue value <;> rfl

/-- An identity comes back from the backend as itself or not at all. Its own form is read as the
identity, and so is everything else that means it; what means none of its type is refused. It is
bound as the text or the integer that it is, and what has been bound is read back as the identity,
unless it is an integer that no signed word holds, which is refused. -/
theorem identities_survive_backend (schema : Schema) (id : schema.idType.Carrier) :
    schema.readId (schema.idValue id) = .ok id ∧
    (∀ carried,
      (schema.readId carried = .ok id ↔ carried.meaning = schema.idType.meaning id) ∧
      ((∃ other, schema.readId carried = .ok other) ∨
        schema.readId carried =
          .error (.configuration (.identityMismatch carried schema.idType)))) ∧
    ((∃ argument, (∀ sql, Statement.bind ⟨sql, [(schema.idValue id).toValue]⟩ = .ok [argument]) ∧
        argument.meaning? = some (schema.idType.meaning id) ∧
        (∀ n, schema.idType.meaning id = .integer n → n < 2 ^ 63) ∧
        ∀ answer, argument.ReadBack answer → answer >>= schema.readId = .ok id) ∨
      ∃ n : UInt64, (∀ sql, Statement.bind ⟨sql, [(schema.idValue id).toValue]⟩ =
          .error (.configuration (.unsignedTooLarge n))) ∧
        schema.idType.meaning id = .integer n.toNat ∧ 2 ^ 63 ≤ n.toNat) := by
  have sent : (schema.idValue id).meaning = schema.idType.meaning id :=
    schema.idType.meaning_toIdValue id
  refine ⟨Schema.readId_eq_ok_iff.2 sent, fun carried => ⟨Schema.readId_eq_ok_iff, ?_⟩, ?_⟩
  · by_cases own : ∃ other, carried.meaning = schema.idType.meaning other
    · obtain ⟨other, denotes⟩ := own
      exact .inl ⟨other, Schema.readId_eq_ok_iff.2 denotes⟩
    · exact .inr (Schema.readId_refused (not_exists.1 own))
  · obtain ⟨argument, accepted, denotes, small⟩ | ⟨n, refused, denotes, large⟩ :=
      (schema.idValue id).bound_or_tooLarge
    · refine .inl ⟨argument, fun sql => ?_, denotes.trans (congrArg some sent),
        fun n integer => small n (sent.trans integer), ?_⟩
      · rw [Statement.bind_singleton, accepted]
        rfl
      · intro answer back
        obtain ⟨carried, rfl, same⟩ := back.exists_identity
        have stored : carried.meaning = (schema.idValue id).meaning :=
          Option.some.inj (same.symm.trans denotes)
        exact Schema.readId_eq_ok_iff.2 (stored.trans sent)
    · refine .inr ⟨n, fun sql => ?_, sent.symm.trans denotes, large⟩
      rw [Statement.bind_singleton, refused]
      rfl

/-- Events that are numbered by unsigned words. -/
def numberedEvents : Schema := ⟨"events", .u64, "id", ["id"], none, none, []⟩

/-- The largest identity that is bound, and the next one, which is not. -/
theorem identities_survive_backend_of_signedBound :
    let largest : numberedEvents.idType.Carrier := (0x7FFFFFFFFFFFFFFF : UInt64)
    let beyond : numberedEvents.idType.Carrier := (0x8000000000000000 : UInt64)
    (Engine.identityOf [("id", .bigint 0x7FFFFFFFFFFFFFFF)] >>= numberedEvents.readId) =
      .ok largest ∧
    (Engine.identityOf [("id", .bigint (-1))] >>= numberedEvents.readId) =
      .error (.configuration (.identityMismatch (.int (-1)) .u64)) ∧
    Statement.bind ⟨"DELETE FROM events WHERE id = ?", [(numberedEvents.idValue beyond).toValue]⟩ =
      .error (.configuration (.unsignedTooLarge 0x8000000000000000)) := by
  intro largest beyond
  obtain ⟨_, _, ⟨argument, accepted, _, _, returns⟩ | ⟨_, refused, _⟩⟩ :=
    identities_survive_backend numberedEvents largest
  · have bound : Statement.bind ⟨"", [(numberedEvents.idValue largest).toValue]⟩ =
      .ok [.int 0x7FFFFFFFFFFFFFFF] := rfl
    obtain ⟨rfl, _⟩ := List.cons.inj (Except.ok.inj ((accepted "").symm.trans bound))
    exact ⟨returns _ (.row (.bigint _) "id" []), rfl, rfl⟩
  · cases refused ""

end DataAccess
