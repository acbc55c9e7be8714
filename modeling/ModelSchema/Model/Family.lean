import ModelSchema.Model.Registry

/-!
# Families of models

A family is a finite set of types of models.  Each type declares its model by a fixed sequence of
actions, of which one may inherit from another type of the family.  `Family.build` is the registry
of a type, built from nothing else than the declarations.
-/

namespace ModelSchema

/-- A step of the declaration of a type. -/
inductive Action (τ : Type) where
  | inherit (parent : τ)
  | field (name : String) (field : Field τ)
  | fail (error : ModelError)
  | abort (message : String)

/-- A finite family of types that declare models. -/
structure Family (τ : Type) where
  all : List τ
  mem_all : ∀ t, t ∈ all
  name : τ → String
  declare : τ → List (Action τ)

/-- The family without types: models of manifests are known by name only. -/
protected def Family.none : Family Empty where
  all := []
  mem_all t := nomatch t
  name t := nomatch t
  declare t := nomatch t

/-- Why a type has no registry: its declaration is refused, or a step gave up. -/
inductive LoadError where
  | invalid (error : ModelError)
  | aborted (message : String)
deriving DecidableEq

/-- Leaving out what is on a longer stack leaves less. -/
theorem length_filter_notMem_lt {α : Type} [DecidableEq α] {all : List α} {stack : List α}
    {a : α} (ha : a ∈ all) (hs : a ∉ stack) :
    (all.filter (· ∉ stack ++ [a])).length < (all.filter (· ∉ stack)).length := by
  have hsub : all.filter (· ∉ stack ++ [a]) =
      (all.filter (· ∉ stack)).filter (· ≠ a) := by
    rw [List.filter_filter]
    apply List.filter_congr
    intro b _
    by_cases hb : b ∈ stack <;> by_cases hba : b = a <;> simp [hb, hba]
  rw [hsub]
  apply List.length_filter_lt_length_iff_exists.mpr
  exact ⟨a, List.mem_filter.mpr ⟨ha, by simpa using hs⟩, by simp⟩

namespace Family

variable {τ : Type} [DecidableEq τ]

/-- The names from the place of a type on the stack to its end, and the name of the type. -/
def chain (family : Family τ) (stack : List τ) (t : τ) : List String :=
  (stack.dropWhile (· ≠ t)).map family.name ++ [family.name t]

/-- Carries out actions in order; `load` gives the registries of parents.  An error of a parent is
recorded, and a step that gives up ends the declaration. -/
def carryOut (load : τ → Except LoadError (Registry τ)) :
    List (Action τ) → Declaration τ → Except LoadError (Declaration τ)
  | [], d => .ok d
  | .inherit parent :: rest, d =>
    match load parent with
    | .ok registry => carryOut load rest (d.inherit registry)
    | .error (.invalid error) => carryOut load rest (d.fail error)
    | .error (.aborted message) => .error (.aborted message)
  | .field name f :: rest, d => carryOut load rest (d.field name f)
  | .fail error :: rest, d => carryOut load rest (d.fail error)
  | .abort message :: _, _ => .error (.aborted message)

/-- The registry of a type, while the declarations of the types on the stack are under way. -/
def buildOn (family : Family τ) (stack : List τ) (t : τ) : Except LoadError (Registry τ) :=
  if t ∈ stack then .error (.invalid (.cyclicInheritance (family.name t) (family.chain stack t)))
  else
    match carryOut (fun parent => family.buildOn (stack ++ [t]) parent) (family.declare t)
        .empty with
    | .error error => .error error
    | .ok d => (d.build (family.name t) (.typed t)).mapError .invalid
termination_by (family.all.filter (· ∉ stack)).length
decreasing_by exact length_filter_notMem_lt (family.mem_all t) ‹_›

/-- The registry of a type. -/
def build (family : Family τ) (t : τ) : Except LoadError (Registry τ) := family.buildOn [] t

end Family

end ModelSchema
