import ModelSchema.Model.Error
import ModelSchema.Model.Rejection
import ModelSchema.Pattern.Meaning

/-!
# Validators

A validator accepts or rejects values, and adds keywords to the schema of the field that it is
attached to.  Keywords are written one after another into a fragment: a keyword that is there
already gets a new value in its place, and nothing is ever removed.

The bounds of validators are finite numbers.  A bound that is infinite or not a number can be
written, but `WrittenBound.finite` refuses it before there is a validator, so no validator writes a
bound that is null.
-/

namespace ModelSchema

/-- A schema fragment: the keywords of an object schema, in order. -/
abbrev Fragment := Json.Members

/-! ## Bounds -/

/-- A numeric bound as it is written: an integer of 64 bits, or any double. -/
inductive WrittenBound where
  | int (value : Int)
  | float (value : Double)
deriving DecidableEq

namespace WrittenBound

/-- The integers that stay integers as bounds. -/
def fitsInt (n : Int) : Bool := -(1 <<< 63 : Nat) ≤ n && n < (1 <<< 63 : Nat)

/-- The bound that a JSON number stands for: integers beyond 63 bits become doubles. -/
def ofNumber : Number → WrittenBound
  | .int n => if fitsInt n then .int n else .float (.finite (.ofInt n))
  | .float x => .float (.finite x)

/-- The nearest double. -/
def toDouble : WrittenBound → Double
  | int n => .finite (.ofInt n)
  | float x => x

/-- The bound in messages. -/
def text : WrittenBound → String
  | int n => toString n
  | float x => x.text

/-- The bound as a finite number. -/
def finite : WrittenBound → Except ModelError Number
  | .int n => .ok (.int n)
  | .float (.finite x) => .ok (.float x)
  | .float other => .error (.invalidBound other.text)

end WrittenBound

/-! ## Patterns -/

/-- The text of a pattern without the slashes around it, if there are two. -/
def withoutDelimiters (text : String) : String :=
  match text.toList with
  | '/' :: rest =>
    match rest.getLast? with
    | some '/' => String.ofList rest.dropLast
    | _ => text
  | _ => text

/-- A pattern for whole strings or parts of them, with the text that it was read from. -/
structure TextPattern where
  text : String
  ignoreCase : Bool
  pattern : Pattern

namespace TextPattern

/-- Reads a pattern, which may stand between slashes. -/
def read (text : String) (ignoreCase : Bool) : Except ModelError TextPattern :=
  let bare := withoutDelimiters text
  match Pattern.forCheck? bare ignoreCase with
  | some pattern => .ok ⟨bare, ignoreCase, pattern⟩
  | none => .error (.invalidPattern text)

/-- The pattern in schemas, where ignoring case is part of the text. -/
def schemaText (p : TextPattern) : String := if p.ignoreCase then "(?i)" ++ p.text else p.text

end TextPattern

/-! ## Validators -/

/-- A rule for the values of a field. -/
inductive Validator where
  /-- Numbers not below a finite bound, or above it. -/
  | min (bound : Number) (exclusive : Bool)
  /-- Numbers not above a finite bound, or below it. -/
  | max (bound : Number) (exclusive : Bool)
  /-- Strings in which a pattern matches somewhere. -/
  | regex (pattern : TextPattern)
  /-- Strings with so many characters, or arrays with so many items. -/
  | length (least : Nat) (most : Option Nat)
  /-- Values that a function does not reject, with the keywords that the rule adds.  These are fixed:
  they do not depend on what is in the fragment, and replace or follow it but remove nothing. -/
  | custom (check : Json → Option Rejection) (keywords : Fragment)

namespace Validator

/-- A lower or upper bound as written. -/
def bounded (make : Number → Bool → Validator) (bound : WrittenBound) (exclusive : Bool) :
    Except ModelError Validator :=
  bound.finite.map (make · exclusive)

/-- A range of lengths; an empty one is refused. -/
def lengthBetween (least : Nat) (most : Option Nat) : Except ModelError Validator :=
  match most with
  | some m => if m < least then .error (.invalidLength least m) else .ok (.length least most)
  | none => .ok (.length least none)

/-- The order of two doubles by value. -/
def lessEq (x y : Binary64) : Bool := x.units ≤ y.units

/-- The strict order of two doubles by value. -/
def less (x y : Binary64) : Bool := x.units < y.units

/-- Why a value is rejected; none if it is accepted.  Numbers are compared as doubles. -/
def check : Validator → Json → Option Rejection
  | min bound exclusive, .number n =>
    let x := n.toBinary64
    let b := bound.toBinary64
    if (if exclusive then less b x else lessEq b x) then none
    else some (.belowMinimum x b exclusive)
  | max bound exclusive, .number n =>
    let x := n.toBinary64
    let b := bound.toBinary64
    if (if exclusive then less x b else lessEq x b) then none
    else some (.aboveMaximum x b exclusive)
  | min _ _, other => some (.typeMismatch "a number" other.valueType)
  | max _ _, other => some (.typeMismatch "a number" other.valueType)
  | regex p, .string s =>
    if p.pattern.isMatch s then none else some (.patternMismatch s p.schemaText)
  | regex _, other => some (.typeMismatch "a string" other.valueType)
  | length least most, .string s => checkLength least most s.length
  | length least most, .array items => checkLength least most items.length
  | length _ _, other => some (.typeMismatch "a string or an array" other.valueType)
  | custom check _, value => check value
where
  /-- Why a length is rejected. -/
  checkLength (least : Nat) (most : Option Nat) (n : Nat) : Option Rejection :=
    if n < least ∨ most.any (· < n) then some (.lengthOutOfRange n least most) else none

/-- The keywords that a validator writes. -/
def keywords : Validator → Fragment
  | min bound exclusive =>
    ("minimum", .number bound) :: if exclusive then [("exclusiveMinimum", .bool true)] else []
  | max bound exclusive =>
    ("maximum", .number bound) :: if exclusive then [("exclusiveMaximum", .bool true)] else []
  | regex p => [("pattern", .string p.schemaText)]
  | length least most =>
    ("minLength", .int least) ::
      match most with
      | some m => [("maxLength", .int m)]
      | none => []
  | custom _ keywords => keywords

/-- Writes the keywords of a validator into a fragment. -/
def contribute (v : Validator) (fragment : Fragment) : Fragment :=
  OrderedMap.putAll fragment v.keywords

/-- Writes the keywords of all validators, one after another. -/
def contributeAll (validators : List Validator) (fragment : Fragment) : Fragment :=
  validators.foldl (fun acc v => v.contribute acc) fragment

end Validator

end ModelSchema
