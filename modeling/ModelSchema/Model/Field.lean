import ModelSchema.Model.Target
import ModelSchema.Model.Validator

/-!
# Fields

A field has a shape, may be required, and carries validators.  Scalar fields have no target;
embedded and list fields have one.
-/

namespace ModelSchema

/-- What the values of a field look like. -/
inductive Shape (τ : Type) where
  | scalar (kind : ScalarKind)
  | embedded (target : Target τ)
  | list (target : Target τ)
deriving DecidableEq

namespace Shape

variable {τ : Type}

/-- The kind of a shape. -/
def kind : Shape τ → FieldKind
  | scalar k => .scalar k
  | embedded _ => .embedded
  | list _ => .list

/-- The target of a shape, if it has one. -/
def target? : Shape τ → Option (Target τ)
  | scalar _ => none
  | embedded t => some t
  | list t => some t

/-- Whether the shape has a target without a candidate. -/
def lacksCandidates (s : Shape τ) : Bool := s.target?.any (·.isEmpty)

/-- The shape of a field of a kind: a target is there exactly for embedded and list fields. -/
def ofKind (field : String) : FieldKind → Option (Target τ) → Except ModelError (Shape τ)
  | .scalar k, none => .ok (.scalar k)
  | .scalar k, some _ => .error (.unexpectedTarget field (.scalar k))
  | .embedded, some t => .ok (.embedded t)
  | .list, some t => .ok (.list t)
  | .embedded, none => .error (.missingTarget field .embedded)
  | .list, none => .error (.missingTarget field .list)

/-- A shape in structural text. -/
def debug (typeName : τ → String) : Shape τ → String
  | scalar kind => "Scalar(" ++ kind.constructorName ++ ")"
  | embedded t => "Embedded(" ++ t.debug typeName ++ ")"
  | list t => "List(" ++ t.debug typeName ++ ")"

end Shape

/-- A declared field. -/
structure Field (τ : Type) where
  shape : Shape τ
  required : Bool
  validators : List Validator

namespace Field

variable {τ : Type}

/-- An optional field without validators. -/
def ofShape (shape : Shape τ) : Field τ := ⟨shape, false, []⟩

/-- The part of structural text that fields have with and without a name. -/
def debugBody (typeName : τ → String) (f : Field τ) : String :=
  "shape: " ++ f.shape.debug typeName ++ ", required: " ++ toString f.required ++
    ", validators: " ++ toString f.validators.length

/-- A field without its name in structural text. -/
def debug (typeName : τ → String) (f : Field τ) : String :=
  "Field \x7b " ++ f.debugBody typeName ++ " \x7d"

/-- A field with its name in structural text. -/
def debugNamed (typeName : τ → String) (name : String) (f : Field τ) : String :=
  "FieldDescriptor \x7b name: " ++ Text.quoted name ++ ", " ++ f.debugBody typeName ++ " \x7d"

end Field

end ModelSchema
