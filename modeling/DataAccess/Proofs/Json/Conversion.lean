import DataAccess.Proofs.Entity.Equality

/-! Values and JSON. Every JSON value is the form of the value that is read from it. The other way
round there are values that no JSON is read as, since a number has one form and only objects stay
JSON: reading back the form of a value takes it to a canonical one, which is the value itself if and
only if that is canonical. -/
namespace DataAccess

namespace WordInteger

theorem toInt64?_ofInt64 (n : Int64) : (ofInt64 n).toInt64? = some n := by
  have small : n.toInt < 0x8000000000000000 := n.toInt_lt
  unfold toInt64? ofInt64
  rw [if_pos small, Int64.ofInt_toInt]

theorem toInt64?_eq_none_iff {n : WordInteger} :
    n.toInt64? = none ↔ 0x8000000000000000 ≤ n.value := by
  unfold toInt64?
  split
  · next small => exact ⟨nofun, fun large => absurd small (Int.not_lt.2 large)⟩
  · next large => exact ⟨fun _ => Int.not_lt.1 large, fun _ => rfl⟩

theorem toInt64?_ofUInt64_eq_none_iff {n : UInt64} :
    (ofUInt64 n).toInt64? = none ↔ 0x8000000000000000 ≤ n.toNat := by
  have value : (ofUInt64 n).value = n.toNat := rfl
  rw [toInt64?_eq_none_iff, value]
  omega

theorem toUInt64_ofUInt64 (n : UInt64) : (ofUInt64 n).toUInt64 = n := by
  unfold toUInt64 ofUInt64
  rw [Int.toNat_natCast, UInt64.ofNat_toNat]

theorem ofInt64_of_toInt64? {n : WordInteger} {signed : Int64} (fits : n.toInt64? = some signed) :
    ofInt64 signed = n := by
  obtain ⟨value, low, high⟩ := n
  unfold toInt64? at fits
  split at fits
  next small =>
    obtain rfl := Option.some.inj fits
    have same : (Int64.ofInt value).toInt = value := Int64.toInt_ofInt_of_le low small
    unfold ofInt64
    simp only [same]
  next => contradiction

theorem ofUInt64_toUInt64 {n : WordInteger} (large : n.toInt64? = none) :
    ofUInt64 n.toUInt64 = n := by
  obtain ⟨value, low, high⟩ := n
  have positive : 0x8000000000000000 ≤ value := toInt64?_eq_none_iff.1 large
  have small : value.toNat < UInt64.size := by
    rw [UInt64.size]
    omega
  have word : (UInt64.ofNat value.toNat).toNat = value.toNat := UInt64.toNat_ofNat_of_lt small
  have natural : (value.toNat : Int) = value := by
    apply Int.toNat_of_nonneg
    omega
  unfold ofUInt64 toUInt64
  simp only [word, natural]

end WordInteger

namespace Json

theorem ofBinary64_of_isFinite {x : Binary64} (finite : x.isFinite) :
    ofBinary64 x = number (.float x finite) := dif_pos finite

end Json

namespace Value

/-- The values that JSON is read as: numbers are finite, an unsigned word is used only for what no
signed one holds, and only objects stay JSON. -/
inductive IsCanonical : Value → Prop
  | null : IsCanonical null
  | bool (value : Bool) : IsCanonical (bool value)
  | int (value : Int64) : IsCanonical (int value)
  | uint {value : UInt64} (large : 0x8000000000000000 ≤ value.toNat) : IsCanonical (uint value)
  | float {value : Binary64} (finite : value.isFinite) : IsCanonical (float value)
  | text (value : String) : IsCanonical (text value)
  | object (members : List (String × Json)) : IsCanonical (json (.object members))
  | list {items : List Value} (each : ∀ item ∈ items, IsCanonical item) : IsCanonical (list items)

theorem ofJson_integer_of_signed {n : WordInteger} {signed : Int64}
    (fits : n.toInt64? = some signed) : ofJson (.number (.integer n)) = int signed := by
  unfold ofJson
  rw [fits]

theorem ofJson_integer_of_unsigned {n : WordInteger} (large : n.toInt64? = none) :
    ofJson (.number (.integer n)) = uint n.toUInt64 := by
  unfold ofJson
  rw [large]

theorem ofItems_eq_map (items : List Json) : ofItems items = items.map ofJson := by
  induction items with
  | nil => rfl
  | cons item rest ih => rw [ofItems, ih, List.map_cons]

theorem itemsToJson_eq_map (items : List Value) : itemsToJson items = items.map toJson := by
  induction items with
  | nil => rfl
  | cons item rest ih => rw [itemsToJson, ih, List.map_cons]

mutual

theorem toJson_ofJson (json : Json) : (ofJson json).toJson = json := by
  match json with
  | .null | .bool _ | .string _ | .object _ => rfl
  | .number (.integer n) =>
    cases fits : n.toInt64? with
    | some signed =>
      rw [ofJson_integer_of_signed fits, toJson, Json.ofInt64, WordInteger.ofInt64_of_toInt64? fits]
    | none =>
      rw [ofJson_integer_of_unsigned fits, toJson, Json.ofUInt64, WordInteger.ofUInt64_toUInt64 fits]
  | .number (.float x finite) => exact Json.ofBinary64_of_isFinite finite
  | .array items => exact congrArg Json.array (itemsToJson_ofItems items)

theorem itemsToJson_ofItems (items : List Json) : itemsToJson (ofItems items) = items := by
  match items with
  | [] => rfl
  | item :: rest =>
    unfold ofItems itemsToJson
    rw [toJson_ofJson item, itemsToJson_ofItems rest]

end

mutual

theorem isCanonical_ofJson (json : Json) : (ofJson json).IsCanonical := by
  match json with
  | .null => exact .null
  | .bool b => exact .bool b
  | .number (.integer n) =>
    cases fits : n.toInt64? with
    | some signed =>
      rw [ofJson_integer_of_signed fits]
      exact .int signed
    | none =>
      rw [ofJson_integer_of_unsigned fits]
      refine .uint (WordInteger.toInt64?_ofUInt64_eq_none_iff.1 ?_)
      rwa [WordInteger.ofUInt64_toUInt64 fits]
  | .number (.float x finite) => exact .float finite
  | .string s => exact .text s
  | .array items => exact .list (isCanonical_of_mem_ofItems items)
  | .object members => exact .object members

theorem isCanonical_of_mem_ofItems (items : List Json) : ∀ item ∈ ofItems items, item.IsCanonical := by
  match items with
  | [] => nofun
  | item :: rest =>
    exact List.forall_mem_cons.2 ⟨isCanonical_ofJson item, isCanonical_of_mem_ofItems rest⟩

end

namespace IsCanonical

variable {value other : Value}

/-- A canonical value is read back from its form. -/
theorem ofJson_toJson (canonical : value.IsCanonical) : ofJson value.toJson = value := by
  induction canonical with
  | null | bool | text | object => rfl
  | int n => exact ofJson_integer_of_signed (WordInteger.toInt64?_ofInt64 n)
  | @uint n large =>
    have unsigned := WordInteger.toInt64?_ofUInt64_eq_none_iff.2 large
    have read := ofJson_integer_of_unsigned unsigned
    rwa [WordInteger.toUInt64_ofUInt64] at read
  | float finite =>
    unfold toJson
    rw [Json.ofBinary64_of_isFinite finite]
    rfl
  | @list items _ ih =>
    have back : ofItems (itemsToJson items) = items := by
      rw [ofItems_eq_map, itemsToJson_eq_map, List.map_map]
      exact (List.map_congr_left ih).trans (List.map_id items)
    exact congrArg Value.list back

theorem same_self (canonical : value.IsCanonical) : value.same value := by
  induction canonical with
  | null => rfl
  | bool b => exact beq_self_eq_true b
  | int n => exact beq_self_eq_true n
  | @uint n => exact beq_self_eq_true n
  | float finite => exact Binary64.same_self finite
  | text s => exact beq_self_eq_true s
  | object members => exact Json.same_self (.object members)
  | @list items _ ih => exact sameItems_self ih

/-- Only canonical values are the same as a canonical one. -/
theorem of_same (canonical : value.IsCanonical) (same : value.same other) : other.IsCanonical := by
  induction canonical generalizing other with
  | null =>
    cases other with
    | null => exact .null
    | _ => contradiction
  | bool =>
    cases other with
    | bool b => exact .bool b
    | _ => contradiction
  | int =>
    cases other with
    | int n => exact .int n
    | _ => contradiction
  | uint large =>
    cases other with
    | uint n =>
      obtain rfl := beq_iff_eq.1 same
      exact .uint large
    | _ => contradiction
  | float finite =>
    cases other with
    | float x => exact .float (Binary64.isFinite_of_same finite same)
    | _ => contradiction
  | text =>
    cases other with
    | text s => exact .text s
    | _ => contradiction
  | object =>
    cases other with
    | json form =>
      cases form with
      | object members => exact .object members
      | _ => contradiction
    | _ => contradiction
  | list _ ih =>
    cases other with
    | list items => exact .list (forall_of_sameItems ih same)
    | _ => contradiction

end IsCanonical

/-- JSON is converted without loss. A value becomes the canonical one with the same form, which it is
equal to, as data or by comparison, if and only if it is canonical. -/
theorem json_conversion_lossless :
    (∀ json : Json, (ofJson json).toJson = json) ∧
    ∀ value : Value,
      (ofJson value.toJson).IsCanonical ∧
      ofJson (ofJson value.toJson).toJson = ofJson value.toJson ∧
      (ofJson value.toJson).toJson = value.toJson ∧
      ((ofJson value.toJson).same value ↔ value.IsCanonical) ∧
      (ofJson value.toJson = value ↔ value.IsCanonical) := by
  refine ⟨toJson_ofJson, fun value => ?_⟩
  have canonical := isCanonical_ofJson value.toJson
  refine ⟨canonical, congrArg ofJson (toJson_ofJson _), toJson_ofJson _, ?_, ?_⟩
  · constructor
    · exact canonical.of_same
    · intro canonical'
      rw [canonical'.ofJson_toJson]
      exact canonical'.same_self
  · constructor
    · intro back
      rwa [back] at canonical
    · exact IsCanonical.ofJson_toJson

end Value

end DataAccess
