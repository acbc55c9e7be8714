import ModelSchema.Model.Kind
import ModelSchema.Text.Quoted

/-!
# Targets

Embedded and list fields have a target: one candidate, or a set of candidates of which a value
takes one.  A candidate is a scalar kind or a model.
-/

namespace ModelSchema

/-- What a model is known by: a type of a family, or a name. -/
inductive ModelKey (τ : Type) where
  | typed (type : τ)
  | named (name : String)
deriving DecidableEq

/-- A kind of value that a target admits. -/
inductive Candidate (τ : Type) where
  | primitive (kind : ScalarKind)
  | model (key : ModelKey τ)
deriving DecidableEq

/-- What the values of an embedded field, or the items of a list, are drawn from. -/
inductive Target (τ : Type) where
  | single (candidate : Candidate τ)
  | candidates (choices : List (Candidate τ))
deriving DecidableEq

namespace Target

variable {τ : Type}

/-- The candidates, in order. -/
def toList : Target τ → List (Candidate τ)
  | single candidate => [candidate]
  | candidates choices => choices

/-- Whether there is nothing to choose from. -/
def isEmpty (t : Target τ) : Bool := t.toList.isEmpty

end Target

/-! ## Structural text -/

/-- A type in structural text, by its name. -/
def typeDebug (name : String) : String := "TypedModel(" ++ Text.quoted name ++ ")"

/-- A key in structural text; `typeName` names the types of the family. -/
def ModelKey.debug {τ : Type} (typeName : τ → String) : ModelKey τ → String
  | typed t => "Typed(" ++ typeDebug (typeName t) ++ ")"
  | named n => "Named(" ++ Text.quoted n ++ ")"

/-- A candidate in structural text. -/
def Candidate.debug {τ : Type} (typeName : τ → String) : Candidate τ → String
  | primitive kind => "Primitive(" ++ kind.constructorName ++ ")"
  | model key => "Model(" ++ key.debug typeName ++ ")"

/-- A target in structural text. -/
def Target.debug {τ : Type} (typeName : τ → String) : Target τ → String
  | single candidate => "Single(" ++ candidate.debug typeName ++ ")"
  | candidates choices =>
    "Candidates([" ++ ", ".intercalate (choices.map (·.debug typeName)) ++ "])"

end ModelSchema
