import Mathlib.Algebra.Order.Group.Int
import Mathlib.Algebra.Order.Ring.Int
import ModelSchema.Number.Binary64

/-!
# Integers rounded to doubles

The double nearest to an integer is an integer again: the 53 leading bits stay, and what is behind
them rounds to the nearer neighbour, a half to the even one.  Rounding keeps the order of integers,
but not their differences, so two integers may become the same double.

Main results:

- Theorem `Binary64.units_ofInt_eq`: the double nearest to an integer, as an integer.
- Theorem `Binary64.rounded_mono`: rounding keeps the order.
- Theorem `Binary64.eq_of_rounded_eq`: integers of at most 53 bits stay apart from all others.
-/

namespace ModelSchema

namespace Binary64

/-! ## Quotients -/

theorem roundedQuotient_one (n : Nat) : roundedQuotient n 1 = n := by
  simp [roundedQuotient, Nat.mod_one]

/-- A rounded quotient is the quotient or the next number. -/
theorem roundedQuotient_bounds (numerator denominator : Nat) :
    numerator / denominator ≤ roundedQuotient numerator denominator ∧
      roundedQuotient numerator denominator ≤ numerator / denominator + 1 := by
  unfold roundedQuotient
  dsimp only
  split <;> omega

/-- A rounded quotient is off by at most a half. -/
theorem roundedQuotient_near {numerator denominator : Nat} (hpos : 0 < denominator) :
    2 * numerator ≤ 2 * (roundedQuotient numerator denominator * denominator) + denominator ∧
      2 * (roundedQuotient numerator denominator * denominator) ≤ 2 * numerator + denominator := by
  have hsplit := Nat.div_add_mod' numerator denominator
  have hnext := Nat.add_one_mul (numerator / denominator) denominator
  have hmod := Nat.mod_lt numerator hpos
  unfold roundedQuotient
  dsimp only
  split <;> omega

/-- A greater number has no smaller rounded quotient. -/
theorem roundedQuotient_mono {m n : Nat} (denominator : Nat) (h : m ≤ n) :
    roundedQuotient m denominator ≤ roundedQuotient n denominator := by
  rcases Nat.lt_or_eq_of_le (Nat.div_le_div_right (c := denominator) h) with hlt | heq
  · exact (roundedQuotient_bounds m denominator).2.trans
      (hlt.trans_le (roundedQuotient_bounds n denominator).1)
  · -- The quotients are equal, so the remainders are in the order of the numbers.
    have hm := Nat.div_add_mod m denominator
    have hn := Nat.div_add_mod n denominator
    rw [heq] at hm
    have hmod : m % denominator ≤ n % denominator := by omega
    unfold roundedQuotient
    dsimp only
    rw [heq]
    split <;> split <;> omega

/-! ## Leading bits -/

/-- A natural number with its 53 leading bits, to which the others are rounded. -/
def roundedNat (n : Nat) : Nat := roundedQuotient n (1 <<< (n.log2 - 52)) <<< (n.log2 - 52)

/-- A positive number of at most 53 bits, shifted until it has all of them. -/
theorem shifted_bounds {n : Nat} (hn : n ≠ 0) (hlog : n.log2 ≤ 52) :
    1 <<< 52 ≤ n <<< (52 - n.log2) ∧ n <<< (52 - n.log2) < 1 <<< 53 := by
  have hbits : n.log2 + (52 - n.log2) = 52 := by omega
  simp only [Nat.shiftLeft_eq, Nat.one_mul]
  constructor
  · calc
      2 ^ 52 = 2 ^ n.log2 * 2 ^ (52 - n.log2) := by rw [← Nat.pow_add, hbits]
      _ ≤ n * 2 ^ (52 - n.log2) := Nat.mul_le_mul_right _ (Nat.log2_self_le hn)
  · calc
      n * 2 ^ (52 - n.log2) < 2 ^ (n.log2 + 1) * 2 ^ (52 - n.log2) :=
        Nat.mul_lt_mul_of_pos_right Nat.lt_log2_self (Nat.two_pow_pos _)
      _ = 2 ^ 53 := by
        rw [← Nat.pow_add]
        congr 1
        omega

/-- A number of at least 53 bits, of which those beyond 53 are dropped. -/
theorem quotient_bounds {n : Nat} (hlog : 52 ≤ n.log2) :
    1 <<< 52 ≤ n / 1 <<< (n.log2 - 52) ∧ n / 1 <<< (n.log2 - 52) < 1 <<< 53 := by
  have hn : n ≠ 0 := by
    rintro rfl
    simp at hlog
  have hbits : n.log2 - 52 + 52 = n.log2 := by omega
  simp only [Nat.shiftLeft_eq, Nat.one_mul]
  rw [Nat.le_div_iff_mul_le (Nat.two_pow_pos _), Nat.div_lt_iff_lt_mul (Nat.two_pow_pos _)]
  constructor
  · calc
      2 ^ 52 * 2 ^ (n.log2 - 52) = 2 ^ n.log2 := by rw [← Nat.pow_add, Nat.add_comm, hbits]
      _ ≤ n := Nat.log2_self_le hn
  · calc
      n < 2 ^ (n.log2 + 1) := Nat.lt_log2_self
      _ = 2 ^ 53 * 2 ^ (n.log2 - 52) := by
        rw [← Nat.pow_add]
        congr 1
        omega

/-- A number of at most 53 bits stays as it is. -/
theorem roundedNat_of_log2_le {n : Nat} (hlog : n.log2 ≤ 52) : roundedNat n = n := by
  rw [roundedNat, Nat.sub_eq_zero_of_le hlog]
  exact roundedQuotient_one n

/-- Rounding stays between the powers of two around a number. -/
theorem roundedNat_bounds {n : Nat} (hn : n ≠ 0) :
    1 <<< n.log2 ≤ roundedNat n ∧ roundedNat n ≤ 1 <<< (n.log2 + 1) := by
  rcases Nat.le_total n.log2 52 with hlog | hlog
  · rw [roundedNat_of_log2_le hlog]
    simp only [Nat.shiftLeft_eq, Nat.one_mul]
    exact ⟨Nat.log2_self_le hn, Nat.lt_log2_self.le⟩
  · obtain ⟨hlow, hhigh⟩ := quotient_bounds hlog
    obtain ⟨hge, hle⟩ := roundedQuotient_bounds n (1 <<< (n.log2 - 52))
    rw [roundedNat]
    generalize roundedQuotient n (1 <<< (n.log2 - 52)) = significand at *
    have hbelow : 1 <<< n.log2 = (1 <<< 52) <<< (n.log2 - 52) := by
      rw [← Nat.shiftLeft_add]
      congr 1
      omega
    have habove : 1 <<< (n.log2 + 1) = (1 <<< 53) <<< (n.log2 - 52) := by
      rw [← Nat.shiftLeft_add]
      congr 1
      omega
    rw [hbelow, habove]
    simp only [Nat.shiftLeft_eq _ (n.log2 - 52)]
    exact ⟨Nat.mul_le_mul_right _ (hlow.trans hge),
      Nat.mul_le_mul_right _ (hle.trans hhigh)⟩

/-- Rounding a number moves it by at most half of the last of its 53 leading bits. -/
theorem roundedNat_near (n : Nat) :
    2 * n ≤ 2 * roundedNat n + 1 <<< (n.log2 - 52) ∧
      2 * roundedNat n ≤ 2 * n + 1 <<< (n.log2 - 52) := by
  have hpos : 0 < 1 <<< (n.log2 - 52) := by
    rw [Nat.shiftLeft_eq, Nat.one_mul]
    exact Nat.two_pow_pos _
  have hunit : roundedNat n = roundedQuotient n (1 <<< (n.log2 - 52)) * 1 <<< (n.log2 - 52) := by
    rw [roundedNat, Nat.shiftLeft_eq _ (n.log2 - 52), Nat.shiftLeft_eq 1, Nat.one_mul]
  rw [hunit]
  exact roundedQuotient_near hpos

/-- Rounding keeps the order of natural numbers. -/
theorem roundedNat_mono {m n : Nat} (h : m ≤ n) : roundedNat m ≤ roundedNat n := by
  rcases Nat.eq_zero_or_pos m with rfl | hm
  · exact Nat.zero_le _
  have hn : n ≠ 0 := (hm.trans_le h).ne'
  have hlog : m.log2 ≤ n.log2 := (Nat.le_log2 hn).mpr ((Nat.log2_self_le hm.ne').trans h)
  rcases Nat.lt_or_eq_of_le hlog with hlt | heq
  · -- A power of two stands between the two numbers.
    calc
      roundedNat m ≤ 1 <<< (m.log2 + 1) := (roundedNat_bounds hm.ne').2
      _ ≤ 1 <<< n.log2 := by
        simp only [Nat.shiftLeft_eq, Nat.one_mul]
        exact Nat.pow_le_pow_right Nat.two_pos hlt
      _ ≤ roundedNat n := (roundedNat_bounds hn).1
  · rw [roundedNat, roundedNat, heq]
    simp only [Nat.shiftLeft_eq _ (n.log2 - 52)]
    exact Nat.mul_le_mul_right _ (roundedQuotient_mono _ h)

/-! ## The nearest double -/

theorem exponentOf_one {n : Nat} (hn : n ≠ 0) : exponentOf n 1 = (n.log2 : Int) - 52 := by
  have hreaches : reaches n 1 (n.log2 : Int) = true := by
    simp [reaches, Nat.shiftLeft_eq, Nat.log2_self_le hn]
  have hone : Nat.log2 1 = 0 := by decide
  simp only [exponentOf, hone, Int.ofNat_zero, Int.sub_zero, hreaches, if_true]
  omega

/-- The significand of a number: its bits moved to the front, or rounded to the 53 leading ones. -/
theorem significand_one {n : Nat} (hn : n ≠ 0) :
    let significand := scaledQuotient n 1 ((n.log2 : Int) - 52)
    1 <<< 52 ≤ significand ∧ significand ≤ 1 <<< 53 ∧
      significand <<< (n.log2 + 1022) = roundedNat n <<< 1074 := by
  intro significand
  rcases Nat.lt_or_ge n.log2 52 with hlog | hlog
  · have heq : significand = n <<< (52 - n.log2) := by
      simp only [significand, scaledQuotient]
      rw [if_neg (by omega), roundedQuotient_one]
      congr 1
      omega
    obtain ⟨hlow, hhigh⟩ := shifted_bounds hn hlog.le
    have hshift : 52 - n.log2 + (n.log2 + 1022) = 1074 := by omega
    refine ⟨heq ▸ hlow, heq ▸ hhigh.le, ?_⟩
    rw [heq, roundedNat_of_log2_le hlog.le, ← Nat.shiftLeft_add, hshift]
  · have heq : significand = roundedQuotient n (1 <<< (n.log2 - 52)) := by
      simp only [significand, scaledQuotient]
      rw [if_pos (by omega)]
      congr 2
      omega
    obtain ⟨hlow, hhigh⟩ := quotient_bounds hlog
    obtain ⟨hge, hle⟩ := roundedQuotient_bounds n (1 <<< (n.log2 - 52))
    have hshift : n.log2 + 1022 = n.log2 - 52 + 1074 := by omega
    refine ⟨heq ▸ hlow.trans hge, heq ▸ hle.trans hhigh, ?_⟩
    rw [heq, roundedNat, ← Nat.shiftLeft_add, hshift]

/-- The double nearest to a number in the range of doubles. -/
theorem exists_ofQuotient?_one (negative : Bool) {n : Nat} (h : n < 1 <<< 1023) :
    ∃ x, ofQuotient? negative n 1 = some x ∧ x.negative = negative ∧
      x.significand <<< (x.exponent + 1074).toNat = roundedNat n <<< 1074 := by
  by_cases hn : n = 0
  · subst hn
    exact ⟨zero negative, rfl, rfl, by simp [zero, roundedNat_of_log2_le]⟩
  have hlog : n.log2 < 1023 := by
    rw [Nat.log2_lt hn]
    simpa only [Nat.shiftLeft_eq, Nat.one_mul] using h
  obtain ⟨hlow, hhigh, hunits⟩ := significand_one hn
  rw [ofQuotient?, if_neg hn]
  simp only [exponentOf_one hn]
  generalize scaledQuotient n 1 ((n.log2 : Int) - 52) = significand at *
  by_cases hcarry : significand = 1 <<< 53
  · -- Rounding up gave one bit more, so the exponent is greater by one.
    have hcanonical : Canonical (1 <<< 52) ((n.log2 : Int) - 52 + 1) :=
      ⟨by decide, by omega, by omega, .inl (Nat.le_refl _)⟩
    have hshift : ((n.log2 : Int) - 52 + 1 + 1074).toNat = 1 + (n.log2 + 1022) := by omega
    refine ⟨⟨negative, _, _, hcanonical⟩, ?_, rfl, ?_⟩
    · rw [if_pos hcarry, ofParts?, dif_pos hcanonical]
    · rw [← hunits, hcarry, hshift, Nat.shiftLeft_add, ← Nat.shiftLeft_add 1 52 1]
  · have hcanonical : Canonical significand ((n.log2 : Int) - 52) :=
      ⟨Nat.lt_of_le_of_ne hhigh hcarry, by omega, by omega, .inl hlow⟩
    have hshift : ((n.log2 : Int) - 52 + 1074).toNat = n.log2 + 1022 := by omega
    refine ⟨⟨negative, _, _, hcanonical⟩, ?_, rfl, ?_⟩
    · rw [if_neg hcarry, ofParts?, dif_pos hcanonical]
    · rw [← hunits, hshift]

/-! ## Integers -/

/-- An integer with its 53 leading bits, to which the others are rounded. -/
def rounded (n : Int) : Int := if n < 0 then -roundedNat n.natAbs else roundedNat n.natAbs

theorem natCast_shiftLeft (n k : Nat) : ((n <<< k : Nat) : Int) = n * (1 <<< k : Nat) := by
  rw [Nat.shiftLeft_eq, Nat.shiftLeft_eq, Nat.one_mul, Int.natCast_mul]

/-- The double nearest to an integer is the integer with its 53 leading bits. -/
theorem units_ofInt_eq {n : Int} (h : n.natAbs < 1 <<< 1023) :
    (ofInt n).units = rounded n * unitsOfOne := by
  obtain ⟨x, hx, hnegative, hunits⟩ := exists_ofQuotient?_one (n < 0) h
  rw [ofInt, hx, Option.getD_some, units, hunits, hnegative, natCast_shiftLeft, rounded]
  simp only [decide_eq_true_eq]
  split
  · rw [Int.neg_mul, unitsOfOne]
  · rw [unitsOfOne]

/-- Rounding keeps the order of integers. -/
theorem rounded_mono {m n : Int} (h : m ≤ n) : rounded m ≤ rounded n := by
  unfold rounded
  split
  · split
    · have hle : roundedNat n.natAbs ≤ roundedNat m.natAbs := roundedNat_mono (by omega)
      omega
    · omega
  · rw [if_neg (by omega)]
    have hle : roundedNat m.natAbs ≤ roundedNat n.natAbs := roundedNat_mono (by omega)
    omega

/-- Of two rounded integers one is at most the other if the integers are in that order or round to
the same. -/
theorem rounded_le_iff {m n : Int} : rounded m ≤ rounded n ↔ m ≤ n ∨ rounded m = rounded n := by
  constructor
  · intro h
    rcases Int.le_total m n with hle | hge
    · exact .inl hle
    · exact .inr (Int.le_antisymm h (rounded_mono hge))
  · rintro (hle | heq)
    · exact rounded_mono hle
    · exact heq.le

/-- Of two rounded integers one is below the other if the integers are and round differently. -/
theorem rounded_lt_iff {m n : Int} : rounded m < rounded n ↔ m < n ∧ rounded m ≠ rounded n := by
  rw [← Int.not_le, rounded_le_iff, not_or, Int.not_le, ne_comm, Ne]

/-- An integer of at most 53 bits stays as it is. -/
theorem rounded_of_lt {n : Int} (h : n.natAbs < 1 <<< 53) : rounded n = n := by
  have hlog : n.natAbs.log2 ≤ 52 := by
    by_cases hn : n.natAbs = 0
    · simp [hn]
    · rw [Nat.shiftLeft_eq, Nat.one_mul] at h
      exact Nat.lt_succ_iff.mp ((Nat.log2_lt hn).mpr h)
  rw [rounded, roundedNat_of_log2_le hlog]
  split <;> omega

/-- The first integer of more than 53 bits stays as it is, too. -/
theorem rounded_of_le {n : Int} (h : n.natAbs ≤ 1 <<< 53) : rounded n = n := by
  rcases Nat.lt_or_eq_of_le h with hlt | heq
  · exact rounded_of_lt hlt
  · rcases Int.natAbs_eq n with hn | hn
    · rw [hn, heq]
      decide +kernel
    · rw [hn, heq]
      decide +kernel

/-- Different integers that round to the same have more than 53 bits, up to the least of these. -/
theorem eq_of_rounded_eq {m n : Int} (h : rounded m = rounded n) (hm : m.natAbs < 1 <<< 53) :
    m = n := by
  have hn : n.natAbs < 1 <<< 53 := by
    by_contra hn
    -- A greater integer rounds to at least the first of more than 53 bits.
    rw [rounded_of_lt hm] at h
    have hleast : rounded (1 <<< 53 : Nat) = (1 <<< 53 : Nat) := rounded_of_le (Nat.le_refl _)
    have hgreatest : rounded (-(1 <<< 53 : Nat)) = -(1 <<< 53 : Nat) :=
      rounded_of_le (by simp)
    rcases Int.le_total 0 n with hpos | hneg
    · have hle : rounded (1 <<< 53 : Nat) ≤ rounded n := rounded_mono (by omega)
      omega
    · have hle : rounded n ≤ rounded (-(1 <<< 53 : Nat)) := rounded_mono (by omega)
      omega
  rwa [rounded_of_lt hm, rounded_of_lt hn] at h

/-- An integer of 64 bits moves by at most half of the last of its 53 leading bits. -/
theorem rounded_near {n : Int} (h : n.natAbs < 1 <<< 64) :
    (rounded n - n).natAbs ≤ 1 <<< 10 := by
  obtain ⟨hbelow, habove⟩ := roundedNat_near n.natAbs
  have hlog : n.natAbs.log2 - 52 ≤ 11 := by
    by_cases hn : n.natAbs = 0
    · simp [hn]
    · rw [Nat.shiftLeft_eq, Nat.one_mul] at h
      have := (Nat.log2_lt hn).mpr h
      omega
  have hlast : 1 <<< (n.natAbs.log2 - 52) ≤ 1 <<< 11 := by
    simp only [Nat.shiftLeft_eq, Nat.one_mul]
    exact Nat.pow_le_pow_right Nat.two_pos hlog
  unfold rounded
  split <;> omega

/-- Integers of 64 bits that round to the same are not far from each other. -/
theorem natAbs_sub_le_of_rounded_eq {m n : Int} (h : rounded m = rounded n)
    (hm : m.natAbs < 1 <<< 64) (hn : n.natAbs < 1 <<< 64) : (m - n).natAbs ≤ 1 <<< 11 := by
  have hnearm := rounded_near hm
  have hnearn := rounded_near hn
  omega

end Binary64
end ModelSchema
