import ModelSchema.Model.Field
import ModelSchema.OrderedMap

/-!
# Registries and declarations

A registry is a model as it is used: its fields in order, inherited ones first.  It is built from
a declaration, which has the registries of parents and the fields of its own.  Parents merge in
order; a field that is declared again keeps its place and takes the new form.
-/

namespace ModelSchema

/-- A model with its resolved fields. -/
structure Registry (τ : Type) where
  name : String
  key : ModelKey τ
  fields : OrderedMap (Field τ)

namespace Registry

variable {τ : Type}

/-- The field with a name. -/
def get? (r : Registry τ) (name : String) : Option (Field τ) := OrderedMap.value? r.fields name

/-- The names of all fields, in order. -/
def fieldNames (r : Registry τ) : List String := OrderedMap.names r.fields

/-- The names of the required fields, in order. -/
def requiredNames (r : Registry τ) : List String :=
  (r.fields.filter (·.2.required)).map Prod.fst

end Registry

/-- What is known of a model before its fields are resolved. -/
structure Declaration (τ : Type) where
  parents : List (Registry τ)
  own : List (String × Field τ)
  error : Option ModelError

namespace Declaration

variable {τ : Type}

/-- A declaration without parents and fields. -/
def empty : Declaration τ := ⟨[], [], none⟩

/-- Adds a parent. -/
def inherit (d : Declaration τ) (parent : Registry τ) : Declaration τ :=
  { d with parents := d.parents ++ [parent] }

/-- Adds a field. -/
def field (d : Declaration τ) (name : String) (f : Field τ) : Declaration τ :=
  { d with own := d.own ++ [(name, f)] }

/-- Records an error.  The first one counts. -/
def fail (d : Declaration τ) (error : ModelError) : Declaration τ :=
  { d with error := d.error <|> some error }

/-- The fields of all parents, later parents over earlier ones. -/
def inherited (d : Declaration τ) : OrderedMap (Field τ) :=
  d.parents.foldl (fun acc parent => OrderedMap.putAll acc parent.fields) []

/-- Checks the own fields in order: a name that was declared before, then a target without
candidates. -/
def checkOwn (model : String) (seen : List String) :
    List (String × Field τ) → Except ModelError Unit
  | [] => .ok ()
  | (name, f) :: rest =>
    if name ∈ seen then .error (.duplicateField model name)
    else if f.shape.lacksCandidates then .error (.emptyCandidates name)
    else checkOwn model (name :: seen) rest

/-- Resolves a declaration under a name and a key. -/
def build (d : Declaration τ) (name : String) (key : ModelKey τ) :
    Except ModelError (Registry τ) :=
  match d.error with
  | some error => .error error
  | none =>
    match checkOwn name [] d.own with
    | .error error => .error error
    | .ok () => .ok ⟨name, key, OrderedMap.putAll d.inherited d.own⟩

end Declaration

end ModelSchema
