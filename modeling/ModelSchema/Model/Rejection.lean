import ModelSchema.Json.Basic
import ModelSchema.Number.Decimal
import ModelSchema.Text.Quoted

/-!
# Rejected values

A validator that does not accept a value says why.
-/

namespace ModelSchema

/-- Why a validator rejects a value. -/
inductive Rejection where
  | belowMinimum (value bound : Binary64) (exclusive : Bool)
  | aboveMaximum (value bound : Binary64) (exclusive : Bool)
  | patternMismatch (value pattern : String)
  | lengthOutOfRange (length least : Nat) (most : Option Nat)
  | typeMismatch (expected : String) (found : Json.ValueType)
  | rejected (reason : String)
deriving DecidableEq

/-- The text of a rejection. -/
def Rejection.message : Rejection → String
  | belowMinimum value bound exclusive =>
    FloatLayout.plain.text value ++ " is lower than the minimum " ++
      FloatLayout.plain.text bound ++ (if exclusive then " (exclusive)" else "")
  | aboveMaximum value bound exclusive =>
    FloatLayout.plain.text value ++ " is greater than the maximum " ++
      FloatLayout.plain.text bound ++ (if exclusive then " (exclusive)" else "")
  | patternMismatch value pattern =>
    Text.quoted value ++ " does not match pattern " ++ Text.quoted pattern
  | lengthOutOfRange length least most =>
    let upper := (most.map toString).getD "∞"
    s!"length {length} is outside the allowed range {least}..={upper}"
  | typeMismatch expected found => s!"expected {expected}, found {found.name}"
  | rejected reason => reason

end ModelSchema
