import ModelSchema.Manifest.Basic
import ModelSchema.Schema.Compile

/-!
# Catalogs of manifests

`Catalog.ofManifest` builds the registries of all declared models, in order.  Before a model its
parent is built, if that was not done already; what was built is kept for later models.
-/

namespace ModelSchema

/-- Why a manifest has no catalog. -/
inductive CatalogError where
  | duplicateModel (name : String)
  | unknownParent (model parent : String)
  | model (name : String) (source : ModelError)
deriving DecidableEq

/-- The text of an error. -/
def CatalogError.message : CatalogError → String
  | duplicateModel name => s!"model '{name}' is declared more than once"
  | unknownParent owner parent => s!"model '{owner}' extends unknown model '{parent}'"
  | model name source => s!"model '{name}': {source.message}"

/-- The first name that occurred before. -/
def firstRepeated? (seen : List String) : List String → Option String
  | [] => none
  | name :: rest => if name ∈ seen then some name else firstRepeated? (name :: seen) rest

namespace Manifest

variable {τ : Type}

/-- The names of the models, in order. -/
def names (m : Manifest) : List String := m.models.map (·.name)

/-- The model with a name. -/
def find? (m : Manifest) (name : String) : Option ModelEntry :=
  m.models.find? (·.name == name)

/-- Adds the fields of entries to a declaration. -/
def addFields : List FieldEntry → Declaration τ → Except ModelError (Declaration τ)
  | [], d => .ok d
  | entry :: rest, d => do
    let f ← entry.build
    addFields rest (d.field entry.name f)

/-- The registry of a model, given that of its parent. -/
def resolve (entry : ModelEntry) (parent : Option (Registry τ)) :
    Except CatalogError (Registry τ) :=
  let start := match parent with
    | some registry => Declaration.empty.inherit registry
    | none => Declaration.empty
  ((addFields entry.fields start).bind fun d => d.build entry.name (.named entry.name)).mapError
    (.model entry.name)

/-- The registries built so far, by name. -/
abbrev Built (τ : Type) := List (String × Registry τ)

/-- The registry of a model below the models on the stack, of which each extends the next, and all
registries that are built then. -/
def place (m : Manifest) (stack : List String) (entry : ModelEntry) (_h : entry ∈ m.models)
    (built : Built τ) : Except CatalogError (Registry τ × Built τ) :=
  match built.lookup entry.name with
  | some registry => .ok (registry, built)
  | none =>
    if entry.name ∈ stack then
      .error (.model entry.name (.cyclicInheritance entry.name
        (stack.dropWhile (· ≠ entry.name) ++ [entry.name])))
    else
      let finish (parent : Option (Registry τ)) (built : Built τ) :=
        (resolve entry parent).map fun registry =>
          (registry, built ++ [(entry.name, registry)])
      match entry.parent with
      | none => finish none built
      | some parent =>
        match hp : m.find? parent with
        | none => .error (.unknownParent entry.name parent)
        | some next =>
          match place m (stack ++ [entry.name]) next (List.mem_of_find?_eq_some hp) built with
          | .error error => .error error
          | .ok (registry, built) => finish (some registry) built
termination_by (m.names.filter (· ∉ stack)).length
decreasing_by
  exact length_filter_notMem_lt (List.mem_map.mpr ⟨entry, _h, rfl⟩) ‹_›

/-- The registries of entries, in order. -/
def placeAll (m : Manifest) : (entries : List ModelEntry) → (∀ e ∈ entries, e ∈ m.models) →
    Built τ → Except CatalogError (List (Registry τ))
  | [], _, _ => .ok []
  | entry :: rest, h, built => do
    let (registry, built) ← m.place [] entry (h entry List.mem_cons_self) built
    let registries ← m.placeAll rest (fun e he => h e (List.mem_cons_of_mem _ he)) built
    return registry :: registries

end Manifest

/-- The catalog of a manifest.  Names that are declared twice are found first. -/
def Catalog.ofManifest {τ : Type} (m : Manifest) : Except CatalogError (Catalog τ) :=
  match firstRepeated? [] m.names with
  | some name => .error (.duplicateModel name)
  | none => (m.placeAll m.models (fun _ h => h) []).map fun registries => ⟨registries⟩

end ModelSchema
