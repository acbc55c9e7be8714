import ModelSchema.Model.Kind
import ModelSchema.Text.Quoted

/-!
# Errors of declarations

A declaration of a model can be refused for one of these causes.
-/

namespace ModelSchema

/-- Why a declaration is refused. -/
inductive ModelError where
  | duplicateField (model field : String)
  | cyclicInheritance (model : String) (chain : List String)
  | missingTarget (field : String) (kind : FieldKind)
  | unexpectedTarget (field : String) (kind : FieldKind)
  | emptyCandidates (field : String)
  | unknownKind (text : String)
  | invalidPattern (pattern : String)
  | invalidBound (bound : String)
  | invalidLength (least most : Nat)
deriving DecidableEq, Repr

/-- Names in the order in which one leads to the next. -/
def arrows (names : List String) : String := " -> ".intercalate names

/-- The text of an error.  For an invalid pattern it stops before the reason. -/
def ModelError.message : ModelError → String
  | duplicateField model field => s!"model '{model}' declares field '{field}' more than once"
  | cyclicInheritance model chain =>
    s!"model '{model}' inherits from itself (chain: {arrows chain})"
  | missingTarget field kind => s!"field '{field}' of kind {kind.name} requires a target"
  | unexpectedTarget field kind =>
    s!"field '{field}' of kind {kind.name} does not accept a target"
  | emptyCandidates field => s!"field '{field}' declares an empty candidate set"
  | unknownKind text => "unknown field kind: " ++ Text.quoted text
  | invalidPattern pattern => "invalid regex pattern " ++ Text.quoted pattern
  | invalidBound bound => s!"numeric bound must be finite, got {bound}"
  | invalidLength least most => s!"length range {least}..={most} is empty"

end ModelSchema
