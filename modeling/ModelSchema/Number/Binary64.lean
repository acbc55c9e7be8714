/-!
# Finite double-precision numbers

A finite double is a sign, a significand below `2 ^ 53` and a power of two.  Each value has one
such form: either the significand has all its 53 bits or the exponent is the least one.

Every finite double is a whole number of *units*, where a unit is the least positive double
`2 ^ (-1074)`.  Order and equality of values are therefore the order and equality of integers
(`Binary64.units`), and no arithmetic on numbers rounds unless its name says so.
-/

namespace ModelSchema

/-- The one form of a double: the significand fits 53 bits, the exponent is in range, and only
the least exponent admits a significand with fewer bits. -/
def Binary64.Canonical (significand : Nat) (exponent : Int) : Prop :=
  significand < 1 <<< 53 ∧ -1074 ≤ exponent ∧ exponent ≤ 971 ∧
    (1 <<< 52 ≤ significand ∨ exponent = -1074)

instance (significand : Nat) (exponent : Int) :
    Decidable (Binary64.Canonical significand exponent) := by
  unfold Binary64.Canonical
  infer_instance

/-- A finite double: `± significand * 2 ^ exponent`.  Zero keeps its sign. -/
structure Binary64 where
  negative : Bool
  significand : Nat
  exponent : Int
  canonical : Binary64.Canonical significand exponent
deriving DecidableEq

namespace Binary64

/-- Zero with the given sign. -/
def zero (negative : Bool) : Binary64 := ⟨negative, 0, -1074, by decide⟩

instance : Inhabited Binary64 := ⟨zero false⟩

/-- The largest finite double with the given sign. -/
def greatest (negative : Bool) : Binary64 := ⟨negative, (1 <<< 53) - 1, 971, by decide⟩

/-- The value as a count of units of `2 ^ (-1074)`. -/
def units (x : Binary64) : Int :=
  let magnitude : Nat := x.significand <<< (x.exponent + 1074).toNat
  if x.negative then -magnitude else magnitude

/-- How many units make up the number one. -/
def unitsOfOne : Int := (1 <<< 1074 : Nat)

/-- Both zeros are zero. -/
def isZero (x : Binary64) : Bool := x.significand == 0

/-- The same number with the other sign. -/
def negate (x : Binary64) : Binary64 := { x with negative := !x.negative }

/-! ## Rounding -/

/-- The integer nearest to a quotient, a half going to the even neighbour. -/
def roundedQuotient (numerator denominator : Nat) : Nat :=
  let quotient := numerator / denominator
  let twice := 2 * (numerator % denominator)
  if twice < denominator ∨ (twice = denominator ∧ quotient % 2 = 0) then quotient
  else quotient + 1

/-- `numerator / denominator / 2 ^ exponent` rounded to an integer. -/
def scaledQuotient (numerator denominator : Nat) (exponent : Int) : Nat :=
  if 0 ≤ exponent then roundedQuotient numerator (denominator <<< exponent.toNat)
  else roundedQuotient (numerator <<< (-exponent).toNat) denominator

/-- Whether `numerator / denominator` is at least `2 ^ exponent`. -/
def reaches (numerator denominator : Nat) (exponent : Int) : Bool :=
  if 0 ≤ exponent then denominator <<< exponent.toNat ≤ numerator
  else denominator ≤ numerator <<< (-exponent).toNat

/-- The exponent that leaves 53 bits before the point of a positive quotient, or the least
exponent if the quotient is too small for that. -/
def exponentOf (numerator denominator : Nat) : Int :=
  let estimate : Int := numerator.log2 - denominator.log2
  let top := if reaches numerator denominator estimate then estimate else estimate - 1
  max (top - 52) (-1074)

/-- The double with these parts, if they are the canonical ones. -/
def ofParts? (negative : Bool) (significand : Nat) (exponent : Int) : Option Binary64 :=
  if h : Canonical significand exponent then some ⟨negative, significand, exponent, h⟩ else none

/-- The double nearest to `± numerator / denominator`, a tie going to the even significand; none
if the quotient rounds beyond the largest finite double. -/
def ofQuotient? (negative : Bool) (numerator denominator : Nat) : Option Binary64 :=
  if numerator = 0 then some (zero negative)
  else
    let exponent := exponentOf numerator denominator
    let significand := scaledQuotient numerator denominator exponent
    if significand = 1 <<< 53 then ofParts? negative (1 <<< 52) (exponent + 1)
    else ofParts? negative significand exponent

/-- The finite double nearest to an integer. -/
def ofInt (n : Int) : Binary64 :=
  (ofQuotient? (n < 0) n.natAbs 1).getD (greatest (n < 0))

/-- A fraction with the magnitude of the double, as numerator and denominator. -/
def fraction (x : Binary64) : Nat × Nat :=
  if 0 ≤ x.exponent then (x.significand <<< x.exponent.toNat, 1)
  else (x.significand, 1 <<< (-x.exponent).toNat)

/-- The product, rounded; none on overflow. -/
def mul? (x y : Binary64) : Option Binary64 :=
  ofQuotient? (x.negative != y.negative) (x.fraction.1 * y.fraction.1)
    (x.fraction.2 * y.fraction.2)

/-- The quotient by a double other than zero, rounded; none on overflow. -/
def div? (x y : Binary64) : Option Binary64 :=
  ofQuotient? (x.negative != y.negative) (x.fraction.1 * y.fraction.2)
    (x.fraction.2 * y.fraction.1)

/-- The nearest double to a power of ten that is in range. -/
def powerOfTen (exponent : Nat) : Binary64 :=
  (ofQuotient? false (Nat.pow 10 exponent) 1).getD (greatest false)

/-! ## Bits of an integer -/

/-- The integer a double stands for, if it is one. -/
def toInt? (x : Binary64) : Option Int :=
  if x.units % unitsOfOne = 0 then some (x.units / unitsOfOne) else none

end Binary64

/-- What a double can be: a finite number, an infinity, or not a number. -/
inductive Double where
  | finite (value : Binary64)
  | infinite (negative : Bool)
  | notANumber
deriving DecidableEq, Inhabited

/-- The double nearest to `± numerator / denominator`; an overflow is infinite. -/
def Double.ofQuotient (negative : Bool) (numerator denominator : Nat) : Double :=
  match Binary64.ofQuotient? negative numerator denominator with
  | some x => .finite x
  | none => .infinite negative

end ModelSchema
