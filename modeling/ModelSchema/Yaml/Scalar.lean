import ModelSchema.Yaml.Node
import ModelSchema.Number.Decimal

/-!
# What scalars stand for

Where any type of value is possible, a plain scalar stands for null, a boolean, a number or a text
by its form, and a tag of the core schema decides the type.  Digits after a leading zero are text.
-/

namespace ModelSchema

namespace Yaml

/-- What a scalar stands for. -/
inductive Value where
  | null
  | bool (value : Bool)
  | int (value : Int)
  | float (value : Double)
  | text (value : String)
deriving DecidableEq

/-- The forms of null. -/
def isNull (text : String) : Bool := ["null", "Null", "NULL", "~"].contains text

/-- The forms of booleans. -/
def bool? (text : String) : Option Bool :=
  if ["true", "True", "TRUE"].contains text then some true
  else if ["false", "False", "FALSE"].contains text then some false
  else none

/-! ## Integers -/

/-- The digits of a base up to sixteen. -/
def digit? (base : Nat) (c : Char) : Option Nat :=
  let d :=
    if c.isDigit then some (c.toNat - 48)
    else if 'a' ≤ c ∧ c ≤ 'f' then some (c.toNat - 87)
    else if 'A' ≤ c ∧ c ≤ 'F' then some (c.toNat - 55)
    else none
  d.filter (· < base)

/-- A natural number in a base, of at least one digit. -/
def natural? (base : Nat) (cs : List Char) : Option Nat :=
  if cs.isEmpty then none else cs.foldlM (fun n c => (digit? base c).map (base * n + ·)) 0

/-- A number after a sign for its base, or a decimal number. -/
def unsigned? (decimal : Bool) : List Char → Option Nat
  | '0' :: 'x' :: rest => natural? 16 rest
  | '0' :: 'o' :: rest => natural? 8 rest
  | '0' :: 'b' :: rest => natural? 2 rest
  | cs => if decimal then natural? 10 cs else none

/-- Digits that are no number: a zero with more digits after it. -/
def isDigitText (cs : List Char) : Bool :=
  let cs := match cs with
    | '-' :: rest => rest
    | '+' :: rest => rest
    | rest => rest
  1 < cs.length && startsWith '0' cs && cs.all Char.isDigit

/-- The integer that a text stands for. -/
def int? (text : String) : Option Int :=
  let cs := text.toList
  let decimal := !isDigitText cs
  match cs with
  | '-' :: rest => (unsigned? decimal rest).map fun n => -(n : Int)
  | '+' :: rest => (unsigned? decimal rest).map Int.ofNat
  | rest => (unsigned? decimal rest).map Int.ofNat

/-! ## Floating-point numbers -/

/-- A text without a plus sign before it; another sign after it is none. -/
def withoutPlus? : List Char → Option (List Char)
  | '+' :: rest => if startsWith '+' rest ∨ startsWith '-' rest then none else some rest
  | rest => some rest

/-- The double that a text stands for.  Only dotted names stand for infinities and not-a-number. -/
def float? (text : String) : Option Double := do
  let cs ← withoutPlus? text.toList
  let unsigned := String.ofList cs
  if [".inf", ".Inf", ".INF"].contains unsigned then return .infinite false
  if ["-.inf", "-.Inf", "-.INF"].contains text then return .infinite true
  if [".nan", ".NaN", ".NAN"].contains text then return .notANumber
  match Double.parse? unsigned with
  | some (.finite x) => return .finite x
  | _ => none

/-! ## Scalars -/

/-- Integers of 128 bits, signed or unsigned; beyond them digits stand for doubles. -/
def fitsWide (n : Int) : Bool := -(1 <<< 127 : Nat) ≤ n && n < (1 <<< 128 : Nat)

/-- What a plain scalar stands for. -/
def plainValue (text : String) : Value :=
  if text.isEmpty ∨ isNull text then .null
  else
    match bool? text, (int? text).filter fitsWide with
    | some b, _ => .bool b
    | none, some n => .int n
    | none, none =>
      match if isDigitText text.toList then none else float? text with
      | some x => .float x
      | none => .text text

/-- What a scalar stands for; none if its tag does not admit it, or belongs to some application. -/
def value? (tag : Option Tag) (style : Style) (text : String) : Option Value :=
  let untagged := if style = .plain then plainValue text else .text text
  match tag with
  | none => some untagged
  | some .null => if isNull text then some .null else none
  | some .bool => (bool? text).map .bool
  | some .int => ((int? text).filter fitsWide).map .int
  | some .float => (float? text).map .float
  | some .foreign => none
  | some .garbled => some untagged
  | some .other => some (.text text)

end Yaml

end ModelSchema
