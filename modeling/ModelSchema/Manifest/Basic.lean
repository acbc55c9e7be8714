import ModelSchema.Model.Registry

/-!
# Manifests

A manifest declares models by name.  Kinds and targets are names, and validators are rules with
their parameters; `FieldEntry.build` turns an entry into a field, and says what is wrong with it.
-/

namespace ModelSchema

/-- A validator as it is declared. -/
inductive Rule where
  | min (bound : WrittenBound) (exclusive : Bool)
  | max (bound : WrittenBound) (exclusive : Bool)
  | regex (pattern : String) (ignoreCase : Bool)
  | length (least : Nat) (most : Option Nat)
deriving DecidableEq

/-- The validator for a rule. -/
def Rule.build : Rule → Except ModelError Validator
  | min bound exclusive => Validator.bounded .min bound exclusive
  | max bound exclusive => Validator.bounded .max bound exclusive
  | regex pattern ignoreCase => (TextPattern.read pattern ignoreCase).map .regex
  | length least most => Validator.lengthBetween least most

/-- A target as it is declared: a name, or a list of names. -/
inductive TargetEntry where
  | one (name : String)
  | many (names : List String)
deriving DecidableEq

/-- The candidate with a name: a scalar kind, or else a model. -/
def Candidate.ofName {τ : Type} (name : String) : Candidate τ :=
  match ScalarKind.ofName? name with
  | some kind => .primitive kind
  | none => .model (.named name)

/-- The target for an entry. -/
def TargetEntry.build {τ : Type} : TargetEntry → Target τ
  | one name => .single (.ofName name)
  | many names => .candidates (names.map .ofName)

/-- A field as it is declared. -/
structure FieldEntry where
  name : String
  kind : String
  required : Bool
  target : Option TargetEntry
  rules : List Rule
deriving DecidableEq

/-- The validators for rules; the first rule without one decides. -/
def buildRules : List Rule → Except ModelError (List Validator)
  | [] => .ok []
  | rule :: rest => do
    let validator ← rule.build
    let validators ← buildRules rest
    return validator :: validators

/-- The field for an entry: its kind is read first, then the rules, and last the target is
checked against the kind. -/
def FieldEntry.build {τ : Type} (entry : FieldEntry) : Except ModelError (Field τ) := do
  let kind ←
    match FieldKind.ofName? entry.kind with
    | some kind => .ok kind
    | none => .error (.unknownKind entry.kind)
  let validators ← buildRules entry.rules
  let shape ← Shape.ofKind entry.name kind (entry.target.map TargetEntry.build)
  return ⟨shape, entry.required, validators⟩

/-- A model as it is declared. -/
structure ModelEntry where
  name : String
  parent : Option String
  fields : List FieldEntry
deriving DecidableEq

/-- Declared models, in order. -/
structure Manifest where
  models : List ModelEntry
deriving DecidableEq

end ModelSchema
