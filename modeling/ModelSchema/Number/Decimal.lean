import ModelSchema.Number.Binary64

/-!
# Decimal text of doubles

Writing takes the fewest decimal digits that read back as the same double, and of those the
nearest (`Binary64.shortest`); which of two equally near ones is written, where the point goes and
when there is an exponent is decided by a `FloatLayout`.  Reading a decimal rounds its exact value
once (`Double.ofDecimal`).
-/

namespace ModelSchema

/-- The number of decimal digits of a natural number; zero has one. -/
def decimalLength (n : Nat) : Nat := (Nat.toDigits 10 n).length

/-- The number `digits * 10 ^ exponent`. -/
structure Decimal where
  digits : Nat
  exponent : Int
deriving DecidableEq, Inhabited

namespace Decimal

/-- The exponent `e` with `10 ^ (e - 1) ≤ numerator / denominator < 10 ^ e`, for a positive
quotient. -/
def pointOf (numerator denominator : Nat) : Int :=
  if denominator ≤ numerator then decimalLength (numerator / denominator)
  else
    let inverse := (denominator + numerator - 1) / numerator
    1 - (decimalLength (inverse - 1) : Int)

/-- The same number without zeros at the end of its digits; `fuel` bounds their number. -/
def trimZeros : Nat → Decimal → Decimal
  | 0, d => d
  | fuel + 1, d =>
    if d.digits ≠ 0 ∧ d.digits % 10 = 0 then trimZeros fuel ⟨d.digits / 10, d.exponent + 1⟩
    else d

end Decimal

namespace Binary64

/-- A set of reals between two quotients with one denominator, with or without its ends. -/
structure Interval where
  low : Nat
  high : Nat
  denominator : Nat
  closed : Bool

/-- Whether a quotient lies in the interval. -/
def Interval.contains (i : Interval) (numerator denominator : Nat) : Bool :=
  let n := numerator * i.denominator
  if i.closed then i.low * denominator ≤ n && n ≤ i.high * denominator
  else i.low * denominator < n && n < i.high * denominator

/-- The magnitude of a double over a denominator that also holds the middles to its neighbours. -/
def scaledMagnitude (x : Binary64) : Nat × Nat :=
  if 2 ≤ x.exponent then (x.significand <<< x.exponent.toNat, 1)
  else (4 * x.significand, 1 <<< (2 - x.exponent).toNat)

/-- The reals that round to the magnitude of a double: up to halfway to its neighbours, and the
halves themselves if its significand is even. -/
def roundingInterval (x : Binary64) : Interval :=
  let quarter := if 2 ≤ x.exponent then 1 <<< (x.exponent - 2).toNat else 1
  let (magnitude, denominator) := x.scaledMagnitude
  let below := if x.significand = 1 <<< 52 ∧ x.exponent ≠ -1074 then quarter else 2 * quarter
  ⟨magnitude - below, magnitude + 2 * quarter, denominator, x.significand % 2 == 0⟩

/-- Which of two equally near decimals is written: the larger one, or the one with an even digit
at its end. -/
inductive Tie where
  | up
  | toEven
deriving DecidableEq

/-- Whether a tie goes to the smaller one of two neighbours. -/
def Tie.goesDown (tie : Tie) (smaller : Nat) : Bool :=
  match tie with
  | up => false
  | toEven => smaller % 2 == 0

/-- The multiple of `10 ^ place` in the rounding interval that is nearest to the magnitude. -/
def onGrid? (tie : Tie) (x : Binary64) (place : Int) : Option Decimal :=
  let (magnitude, denominator) := x.scaledMagnitude
  let up := Nat.pow 10 place.toNat
  let down := Nat.pow 10 (-place).toNat
  let below := magnitude * down / (denominator * up)
  let inside (digits : Nat) := x.roundingInterval.contains (digits * up) down
  let rest := magnitude * down % (denominator * up)
  let lowerFirst :=
    2 * rest < denominator * up ∨ (2 * rest = denominator * up ∧ tie.goesDown below)
  match inside below, inside (below + 1) with
  | true, true => some ⟨if lowerFirst then below else below + 1, place⟩
  | true, false => some ⟨below, place⟩
  | false, true => some ⟨below + 1, place⟩
  | false, false => none

/-- The fewest decimal digits that read back as the magnitude of the double, nearest to it. -/
def shortest (tie : Tie) (x : Binary64) : Decimal :=
  if x.isZero then ⟨0, 0⟩
  else
    let (magnitude, denominator) := x.scaledMagnitude
    let point := Decimal.pointOf magnitude denominator
    let found := (List.range 17).findSome? fun (n : Nat) => x.onGrid? tie (point - (n : Int) - 1)
    (found.getD ⟨0, 0⟩).trimZeros 20

end Binary64

/-! ## Layout -/

/-- How the digits of a double are laid out. -/
structure FloatLayout where
  /-- Powers of ten from `leastPositional` up to below `positionalEnd` are written without an
  exponent; none means that all are. -/
  positional : Option (Int × Int)
  /-- Whole numbers written without an exponent end in `.0`. -/
  pointZero : Bool
  /-- Which of two equally near decimals with the fewest digits is written. -/
  tie : Binary64.Tie

namespace FloatLayout

/-- A run of zeros. -/
def zeros (count : Nat) : String := String.ofList (List.replicate count '0')

/-- Digits written without an exponent. -/
def positionalText (layout : FloatLayout) (d : Decimal) : String :=
  let digits := toString d.digits
  if 0 ≤ d.exponent then
    let whole := if d.digits = 0 then "0" else digits ++ zeros d.exponent.toNat
    if layout.pointZero then whole ++ ".0" else whole
  else
    let after := (-d.exponent).toNat
    if digits.length ≤ after then "0." ++ zeros (after - digits.length) ++ digits
    else
      String.ofList (digits.toList.take (digits.length - after)) ++ "." ++
        String.ofList (digits.toList.drop (digits.length - after))

/-- Digits written with an exponent: one digit, the others after a point, a signed exponent. -/
def exponentText (d : Decimal) (power : Int) : String :=
  let digits := (toString d.digits).toList
  let fraction := digits.drop 1
  String.ofList (digits.take 1) ++
    (if fraction.isEmpty then "" else "." ++ String.ofList fraction) ++
    (if power < 0 then "e-" else "e+") ++ toString power.natAbs

/-- The text of a double in a layout. -/
def text (layout : FloatLayout) (x : Binary64) : String :=
  let d := x.shortest layout.tie
  let power : Int := (decimalLength d.digits : Int) - 1 + d.exponent
  let positional :=
    match layout.positional with
    | none => true
    | some (least, stop) => d.digits = 0 || (least ≤ power && power < stop)
  let magnitude := if positional then layout.positionalText d else exponentText d power
  if x.negative then "-" ++ magnitude else magnitude

/-- Numbers in JSON text show that they are no integers, and use an exponent below `10 ^ (-5)`
and from `10 ^ 16` on. -/
def json : FloatLayout := ⟨some (-5, 16), true, .toEven⟩

/-- Numbers in messages have all their digits and no exponent. -/
def plain : FloatLayout := ⟨none, false, .up⟩

end FloatLayout

/-- The text of a double in a message. -/
def Double.text : Double → String
  | .finite x => FloatLayout.plain.text x
  | .infinite negative => if negative then "-inf" else "inf"
  | .notANumber => "NaN"

/-! ## Reading -/

/-- The double nearest to a decimal.  Exponents far outside the range are decided at once. -/
def Double.ofDecimal (negative : Bool) (d : Decimal) : Double :=
  if d.digits = 0 then .finite (.zero negative)
  else
    let power := (decimalLength d.digits : Int) + d.exponent
    if 400 < power then .infinite negative
    else if power < -400 then .finite (.zero negative)
    else if 0 ≤ d.exponent then .ofQuotient negative (d.digits * Nat.pow 10 d.exponent.toNat) 1
    else .ofQuotient negative d.digits (Nat.pow 10 (-d.exponent).toNat)

namespace Double

/-- The digits of a text as a number. -/
def digitsValue (cs : List Char) : Nat :=
  cs.foldl (fun n c => 10 * n + (c.toNat - 48)) 0

/-- The exponent part of a decimal: nothing, or `e` with a signed integer. -/
def readExponent? : List Char → Option Int
  | [] => some 0
  | c :: rest =>
    if c = 'e' ∨ c = 'E' then
      let (negative, digits) :=
        match rest with
        | '-' :: r => (true, r)
        | '+' :: r => (false, r)
        | r => (false, r)
      if digits.isEmpty ∨ !digits.all Char.isDigit then none
      else some (if negative then -(digitsValue digits : Int) else digitsValue digits)
    else none

/-- A decimal with an optional point and exponent and at least one digit before the exponent. -/
def readDecimal? (cs : List Char) : Option Decimal :=
  let whole := cs.takeWhile Char.isDigit
  let (fraction, rest) :=
    match cs.dropWhile Char.isDigit with
    | '.' :: r => (r.takeWhile Char.isDigit, r.dropWhile Char.isDigit)
    | r => ([], r)
  if whole.isEmpty && fraction.isEmpty then none
  else (readExponent? rest).map fun e =>
    ⟨digitsValue (whole ++ fraction), e - fraction.length⟩

/-- Reads a decimal, an infinity or not-a-number; names are read in any case. -/
def parse? (text : String) : Option Double :=
  let (negative, magnitude) :=
    match text.toList with
    | '-' :: r => (true, r)
    | '+' :: r => (false, r)
    | r => (false, r)
  let name := String.ofList (magnitude.map Char.toLower)
  if name = "inf" ∨ name = "infinity" then some (.infinite negative)
  else if name = "nan" then some .notANumber
  else (readDecimal? magnitude).map (ofDecimal negative)

end Double

end ModelSchema
