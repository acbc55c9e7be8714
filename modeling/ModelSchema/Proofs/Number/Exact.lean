import ModelSchema.Json.Basic
import ModelSchema.Proofs.Number.Rounding

/-!
# Integers that are doubles

Integers of at most 53 bits, and the next one, are doubles themselves, so reading them as doubles
changes nothing.  Numbers of that size are therefore compared as doubles as they are compared
exactly.

Main results:

- Theorem `Binary64.units_ofInt`: the double nearest to such an integer is the integer.
- Theorem `Number.units_toBinary64`: the double nearest to a number of that size is the number.
-/

namespace ModelSchema

namespace Binary64

/-- An integer of at most 53 bits is a double, and so is the first one beyond them. -/
theorem units_ofInt {n : Int} (h : n.natAbs ≤ 1 <<< 53) : (ofInt n).units = n * unitsOfOne := by
  have hrange : n.natAbs < 1 <<< 1023 := h.trans_lt (by decide +kernel)
  rw [units_ofInt_eq hrange, rounded_of_le h]

end Binary64

namespace Number

/-- A number is of at most 53 bits before the point, or the first integer beyond them. -/
def Moderate (n : Number) : Prop :=
  n.units.natAbs ≤ (1 <<< 53) * Binary64.unitsOfOne.natAbs

instance (n : Number) : Decidable n.Moderate := by
  unfold Moderate
  infer_instance

/-- Such a number is the double that it is read as. -/
theorem units_toBinary64 {n : Number} (h : n.Moderate) : n.toBinary64.units = n.units := by
  cases n with
  | int n =>
    refine Binary64.units_ofInt ?_
    rw [Moderate, units, Int.natAbs_mul] at h
    exact Nat.le_of_mul_le_mul_right h (by decide +kernel)
  | float x => rfl

end Number

end ModelSchema
