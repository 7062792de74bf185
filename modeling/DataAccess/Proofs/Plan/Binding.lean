import DataAccess.Backend.Argument
import DataAccess.Proofs.Plan.Placeholders
import DataAccess.Proofs.Sql.Rendering

/-! Binding the arguments of rendered statements. Rendering leaves scalars only, so a driver refuses
nothing but an unsigned word that no signed column can hold. -/
namespace DataAccess

/-- An unsigned word above the largest signed one. -/
def Value.isTooLarge : Value → Bool
  | .uint n => powerOfTwo 63 ≤ n.toNat
  | _ => false

theorem Argument.ofValue_uint (n : UInt64) :
    ofValue (.uint n) =
      if (Value.uint n).isTooLarge then .error (.configuration (.unsignedTooLarge n))
      else .ok (int (Int64.ofNat n.toNat)) := by
  by_cases small : n.toNat < powerOfTwo 63
  · have fits : (Value.uint n).isTooLarge = false := decide_eq_false (Nat.not_le_of_lt small)
    rw [fits]
    exact if_pos small
  · have large : (Value.uint n).isTooLarge = true := decide_eq_true (Nat.le_of_not_lt small)
    rw [large]
    exact if_neg small

end DataAccess
