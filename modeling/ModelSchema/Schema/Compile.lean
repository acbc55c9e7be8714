import ModelSchema.Model.Family

/-!
# Schemas of models

The schema of a model is an object schema with one property for each field.  A property is the base
fragment of the field's shape with the keywords of its validators; the fragment of a candidate
model is the whole schema of that model, so a model that embeds itself has no schema.

`Registry.document` says what the schema of a model is, given the schemas of the models that its
fields refer to.  `Scope.expand` finds those by following the references, and keeps the path that
led from the first model to the current one.
-/

namespace ModelSchema

/-- Why a model has no schema. -/
inductive SchemaError where
  | model (source : LoadError)
  | unknownModel (name : String)
  | unresolvedModel (model field target : String)
  | cyclicModel (model : String) (path : List String)
deriving DecidableEq

/-! ## Fragments -/

namespace ScalarKind

/-- The JSON type of a kind, and the format of its strings. -/
def typeAndFormat : ScalarKind → String × Option String
  | string => ("string", none)
  | int => ("integer", none)
  | float => ("number", none)
  | bool => ("boolean", none)
  | date => ("string", some "date")
  | time => ("string", some "time")
  | datetime => ("string", some "date-time")

/-- The fragment of a kind. -/
def fragment (kind : ScalarKind) : Fragment :=
  ("type", .string kind.typeAndFormat.1) ::
    match kind.typeAndFormat.2 with
    | some format => [("format", .string format)]
    | none => []

end ScalarKind

section Document

variable {τ : Type}

/-- The fragment of a candidate, given those of models. -/
def Candidate.fragment (model : ModelKey τ → Except SchemaError Fragment) :
    Candidate τ → Except SchemaError Fragment
  | primitive kind => .ok kind.fragment
  | .model key => model key

/-- The branches of a choice: the fragments of the candidates, in order.  The first candidate
without a fragment decides. -/
def branches (model : ModelKey τ → Except SchemaError Fragment) :
    List (Candidate τ) → Except SchemaError (List Json)
  | [] => .ok []
  | candidate :: rest => do
    let fragment ← candidate.fragment model
    let others ← branches model rest
    return .object fragment :: others

/-- The fragment of a target: that of its only candidate, or a choice between all. -/
def Target.fragment (model : ModelKey τ → Except SchemaError Fragment) (t : Target τ) :
    Except SchemaError Fragment :=
  match t.toList with
  | [candidate] => candidate.fragment model
  | choices => (branches model choices).map fun all => [("oneOf", .array all)]

/-- The fragment of a shape. -/
def Shape.fragment (model : ModelKey τ → Except SchemaError Fragment) :
    Shape τ → Except SchemaError Fragment
  | scalar kind => .ok kind.fragment
  | embedded t => t.fragment model
  | list t => (t.fragment model).map fun items =>
    [("type", .string "array"), ("items", .object items)]

/-- The fragment of a field: that of its shape with the keywords of its validators. -/
def Field.fragment (model : ModelKey τ → Except SchemaError Fragment) (f : Field τ) :
    Except SchemaError Fragment :=
  (f.shape.fragment model).map (Validator.contributeAll f.validators)

/-- The properties of fields, in order.  `model` also gets the name of the field that refers to
a model. -/
def properties (model : String → ModelKey τ → Except SchemaError Fragment) :
    OrderedMap (Field τ) → OrderedMap Json → Except SchemaError (OrderedMap Json)
  | [], written => .ok written
  | (name, f) :: rest, written => do
    let fragment ← f.fragment (model name)
    properties model rest (OrderedMap.put written name (.object fragment))

/-- The schema of a model, given those of the models that its fields refer to. -/
def Registry.document (model : String → ModelKey τ → Except SchemaError Fragment)
    (r : Registry τ) : Except SchemaError Fragment := do
  let properties ← properties model r.fields []
  let required := r.requiredNames.map Json.string
  return ("type", .string "object") :: ("properties", .object properties) ::
    if required.isEmpty then [] else [("required", .array required)]

end Document

/-! ## Scopes -/

/-- Registries by name, in order. -/
structure Catalog (τ : Type) where
  models : List (Registry τ)

namespace Catalog

variable {τ : Type}

/-- The model with a name. -/
def get? (c : Catalog τ) (name : String) : Option (Registry τ) :=
  c.models.find? (·.name == name)

/-- The names of the models, in order. -/
def names (c : Catalog τ) : List String := c.models.map (·.name)

end Catalog

/-- Where references to models are looked up: types in a family, names in a catalog. -/
structure Scope (τ : Type) where
  family : Family τ
  catalog : Option (Catalog τ)

namespace Scope

variable {τ : Type} [DecidableEq τ]

/-- The models of the catalog, if there is one. -/
def models (scope : Scope τ) : List (Registry τ) := (scope.catalog.map (·.models)).getD []

/-- The keys of all models that a reference can lead to. -/
def keys (scope : Scope τ) : List (ModelKey τ) :=
  scope.family.all.map .typed ++ scope.models.map (·.key)

/-- The model of the catalog with a name. -/
def find? (scope : Scope τ) (name : String) : Option (Registry τ) :=
  scope.models.find? (·.name == name)

/-- The model that a field of a model refers to. -/
def resolve (scope : Scope τ) (model field : String) :
    ModelKey τ → Except SchemaError (Registry τ)
  | .typed t => (scope.family.build t).mapError .model
  | .named name =>
    match scope.find? name with
    | some r => .ok r
    | none => .error (.unresolvedModel model field name)

omit [DecidableEq τ] in
/-- A registry that was built has the key that it was built with. -/
theorem key_of_build {d : Declaration τ} {name : String} {key : ModelKey τ} {r : Registry τ}
    (h : d.build name key = .ok r) : r.key = key := by
  unfold Declaration.build at h
  split at h
  · cases h
  · split at h
    · cases h
    · cases h
      rfl

/-- The registry of a type has that type as its key. -/
theorem key_of_familyBuild {family : Family τ} {t : τ} {r : Registry τ}
    (h : family.build t = .ok r) : r.key = .typed t := by
  unfold Family.build at h
  rw [Family.buildOn] at h
  split at h
  · cases h
  · split at h
    · cases h
    · rename_i d _
      cases hb : d.build (family.name t) (.typed t) with
      | error e => rw [hb] at h; cases h
      | ok r' =>
        rw [hb] at h
        cases h
        exact key_of_build hb

/-- A reference leads to a model of the scope. -/
theorem key_mem_of_resolve {scope : Scope τ} {model field : String} {key : ModelKey τ}
    {r : Registry τ} (h : scope.resolve model field key = .ok r) : r.key ∈ scope.keys := by
  cases key with
  | typed t =>
    simp only [resolve] at h
    cases hb : scope.family.build t with
    | error e => rw [hb] at h; cases h
    | ok r' =>
      rw [hb] at h
      cases h
      rw [key_of_familyBuild hb]
      exact List.mem_append_left _ (List.mem_map.mpr ⟨t, scope.family.mem_all t, rfl⟩)
  | named name =>
    simp only [resolve] at h
    split at h
    · rename_i r' hf
      cases h
      exact List.mem_append_right _ (List.mem_map.mpr ⟨r, List.mem_of_find?_eq_some hf, rfl⟩)
    · cases h

/-- The names on a path from the first model with a key to the end, and a last name. -/
def cycle (path : List (Registry τ)) (r : Registry τ) : List String :=
  (path.dropWhile (·.key ≠ r.key)).map (·.name) ++ [r.name]

/-- How many models of the scope are not on a path; a model from outside counts as one more. -/
def distance (scope : Scope τ) (path : List (Registry τ)) (r : Registry τ) : Nat :=
  (scope.keys.filter (· ∉ path.map (·.key))).length + if r.key ∈ scope.keys then 0 else 1

/-- A step to a model of the scope comes nearer to the end. -/
theorem distance_lt {scope : Scope τ} {path : List (Registry τ)} {r next : Registry τ}
    (hr : r.key ∉ path.map (·.key)) (hn : next.key ∈ scope.keys) :
    scope.distance (path ++ [r]) next < scope.distance path r := by
  unfold distance
  rw [if_pos hn, List.map_append, List.map_singleton]
  by_cases hk : r.key ∈ scope.keys
  · rw [if_pos hk]
    exact length_filter_notMem_lt hk hr
  · rw [if_neg hk]
    have hle : (scope.keys.filter (· ∉ path.map (·.key) ++ [r.key])).length ≤
        (scope.keys.filter (· ∉ path.map (·.key))).length := by
      have hsub : scope.keys.filter (· ∉ path.map (·.key) ++ [r.key]) =
          (scope.keys.filter (· ∉ path.map (·.key))).filter (· ≠ r.key) := by
        rw [List.filter_filter]
        apply List.filter_congr
        intro key _
        by_cases h : key = r.key <;> by_cases hp : key ∈ path.map (·.key) <;> simp [h, hp]
      rw [hsub]
      exact List.length_filter_le _ _
    omega

/-- The schema of a model at the end of a path.  A model with a key that is on the path already
is refused. -/
def expand (scope : Scope τ) (path : List (Registry τ)) (r : Registry τ) :
    Except SchemaError Fragment :=
  if r.key ∈ path.map (·.key) then .error (.cyclicModel r.name (cycle path r))
  else
    r.document fun field key =>
      match _h : scope.resolve r.name field key with
      | .error error => .error error
      | .ok next => scope.expand (path ++ [r]) next
termination_by scope.distance path r
decreasing_by exact distance_lt ‹_› (key_mem_of_resolve _h)

/-- The schema of a model. -/
def compile (scope : Scope τ) (r : Registry τ) : Except SchemaError Json :=
  (scope.expand [] r).map .object

/-- The schema of a type of the family. -/
def compileType (scope : Scope τ) (t : τ) : Except SchemaError Json :=
  match scope.family.build t with
  | .ok r => scope.compile r
  | .error error => .error (.model error)

/-- The schema of a model of the catalog. -/
def compileNamed (scope : Scope τ) (name : String) : Except SchemaError Json :=
  match scope.find? name with
  | some r => scope.compile r
  | none => .error (.unknownModel name)

end Scope

/-- The text of a load error. -/
def LoadError.message : LoadError → String
  | invalid error => error.message
  | aborted message => message

/-- The text of an error. -/
def SchemaError.message : SchemaError → String
  | model source => s!"model declaration error: {source.message}"
  | unknownModel name => s!"unknown model '{name}'"
  | unresolvedModel owner field target =>
    s!"field '{field}' of model '{owner}' references unknown model '{target}'"
  | cyclicModel name path => s!"model '{name}' embeds itself (path: {arrows path})"

end ModelSchema
