import ModelSchema.Json.Reader
import ModelSchema.Model.Validator
import ModelSchema.Proofs.Number.Rounding

/-!
# Integers against integer bounds

A bound and a value are compared as the doubles nearest to them.  For integers this is the order of
the integers, except that two of them count as equal if they round to the same double.  That takes
two integers of more than 53 bits that are close to each other.

Main results:

- Theorem `Validator.lessEq_int_iff`: the order of integers as doubles.
- Theorem `Validator.check_integer_iff`: which integers an integer bound accepts.
-/

namespace ModelSchema

namespace Validator

open Binary64 (rounded unitsOfOne)

/-! ## The order of integers as doubles -/

section Order

variable {m n : Int}

/-- An integer of 64 bits is read as the double that it rounds to. -/
theorem units_toBinary64_int (h : n.natAbs < 1 <<< 64) :
    (Number.int n).toBinary64.units = rounded n * unitsOfOne :=
  Binary64.units_ofInt_eq (h.trans (by decide +kernel))

/-- As doubles, integers are in their order or equal. -/
theorem lessEq_int_iff (hm : m.natAbs < 1 <<< 64) (hn : n.natAbs < 1 <<< 64) :
    lessEq (Number.int m).toBinary64 (Number.int n).toBinary64 = true ↔
      m ≤ n ∨ rounded m = rounded n := by
  have hpos : 0 < unitsOfOne := by decide +kernel
  rw [lessEq, decide_eq_true_iff, units_toBinary64_int hm, units_toBinary64_int hn,
    Int.mul_le_mul_iff_of_pos_right hpos, Binary64.rounded_le_iff]

/-- As doubles, integers are strictly in their order unless they are equal. -/
theorem less_int_iff (hm : m.natAbs < 1 <<< 64) (hn : n.natAbs < 1 <<< 64) :
    less (Number.int m).toBinary64 (Number.int n).toBinary64 = true ↔
      m < n ∧ rounded m ≠ rounded n := by
  have hpos : 0 < unitsOfOne := by decide +kernel
  rw [less, decide_eq_true_iff, units_toBinary64_int hm, units_toBinary64_int hn,
    Int.mul_lt_mul_right hpos, Binary64.rounded_lt_iff]

end Order

/-! ## Checks -/

/-- A lower bound accepts the numbers from it on, or those above it. -/
theorem check_min_eq_none_iff {bound n : Number} {exclusive : Bool} :
    (min bound exclusive).check (.number n) = none ↔
      (if exclusive then less bound.toBinary64 n.toBinary64
        else lessEq bound.toBinary64 n.toBinary64) = true := by
  simp [check]

/-- An upper bound accepts the numbers up to it, or those below it. -/
theorem check_max_eq_none_iff {bound n : Number} {exclusive : Bool} :
    (max bound exclusive).check (.number n) = none ↔
      (if exclusive then less n.toBinary64 bound.toBinary64
        else lessEq n.toBinary64 bound.toBinary64) = true := by
  simp [check]

/-- An integer is accepted as its order to the bound says, where an integer that rounds to the same
double as the bound counts as the bound itself.  Different integers do that only if both have more
than 53 bits and they differ by at most `2 ^ 11`. -/
theorem check_integer_iff {b n : Int} (hb : WrittenBound.fitsInt b = true)
    (hn : Json.fitsInteger n = true) :
    ((min (.int b) false).check (.int n) = none ↔ b ≤ n ∨ rounded b = rounded n) ∧
    ((min (.int b) true).check (.int n) = none ↔ b < n ∧ rounded b ≠ rounded n) ∧
    ((max (.int b) false).check (.int n) = none ↔ n ≤ b ∨ rounded b = rounded n) ∧
    ((max (.int b) true).check (.int n) = none ↔ n < b ∧ rounded b ≠ rounded n) ∧
    (rounded b = rounded n → b = n ∨
      (1 <<< 53 ≤ b.natAbs ∧ 1 <<< 53 ≤ n.natAbs ∧ (b - n).natAbs ≤ 1 <<< 11)) := by
  have hb' : b.natAbs < 1 <<< 64 := by
    simp only [WrittenBound.fitsInt, Bool.and_eq_true, decide_eq_true_eq] at hb
    omega
  have hn' : n.natAbs < 1 <<< 64 := by
    simp only [Json.fitsInteger, Bool.and_eq_true, decide_eq_true_eq] at hn
    omega
  refine ⟨?_, ?_, ?_, ?_, fun heq => ?_⟩
  · exact check_min_eq_none_iff.trans (lessEq_int_iff hb' hn')
  · exact check_min_eq_none_iff.trans (less_int_iff hb' hn')
  · rw [eq_comm (a := rounded b)]
    exact check_max_eq_none_iff.trans (lessEq_int_iff hn' hb')
  · rw [ne_comm (a := rounded b)]
    exact check_max_eq_none_iff.trans (less_int_iff hn' hb')
  · by_cases hsmall : b.natAbs < 1 <<< 53
    · exact .inl (Binary64.eq_of_rounded_eq heq hsmall)
    · by_cases hsmall' : n.natAbs < 1 <<< 53
      · exact .inl (Binary64.eq_of_rounded_eq heq.symm hsmall').symm
      · exact .inr ⟨Nat.not_lt.mp hsmall, Nat.not_lt.mp hsmall',
          Binary64.natAbs_sub_le_of_rounded_eq heq hb' hn'⟩

/-- As a lower bound that excludes itself, `2 ^ 53` does not accept its successor. -/
theorem check_successor_of_bound :
    WrittenBound.fitsInt 9007199254740992 = true ∧ Json.fitsInteger 9007199254740993 = true ∧
      ¬ ((min (.int 9007199254740992) true).check (.int 9007199254740993) = none ↔
        (9007199254740992 : Int) < 9007199254740993) := by
  decide +kernel

/-- The greatest signed integer of 64 bits accepts, as an upper bound, an integer that is greater by
1025, and does not accept it as a lower bound that excludes itself. -/
theorem check_greatest_integer :
    WrittenBound.fitsInt 9223372036854775807 = true ∧
      Json.fitsInteger 9223372036854776832 = true ∧
      (max (.int 9223372036854775807) false).check (.int 9223372036854776832) = none ∧
      (min (.int 9223372036854775807) true).check (.int 9223372036854776832) ≠ none := by
  have hb : WrittenBound.fitsInt 9223372036854775807 = true := by decide +kernel
  have hn : Json.fitsInteger 9223372036854776832 = true := by decide +kernel
  have hrounded : rounded 9223372036854775807 = rounded 9223372036854776832 := by decide +kernel
  obtain ⟨-, hmin, hmax, -⟩ := check_integer_iff hb hn
  exact ⟨hb, hn, hmax.mpr (.inr hrounded), fun h => (hmin.mp h).2 hrounded⟩

end Validator
end ModelSchema
