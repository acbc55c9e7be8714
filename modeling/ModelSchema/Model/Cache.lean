import ModelSchema.Model.Family

/-!
# Registries on demand

A cache holds the registries of types that were asked for.  A registry is published when it is
complete, and only then; types whose declarations are under way stand on a stack, on which a type
that inherits from itself is found.
-/

namespace ModelSchema

/-- The published registries, and the types whose declarations are under way. -/
structure Cache (τ : Type) where
  published : List (τ × Registry τ)
  underWay : List τ

namespace Cache

variable {τ : Type} [DecidableEq τ]

/-- Nothing is published and nothing under way. -/
def empty : Cache τ := ⟨[], []⟩

/-- The published registry of a type. -/
def get? (cache : Cache τ) (t : τ) : Option (Registry τ) := cache.published.lookup t

/-- A declaration of a type has begun. -/
def push (cache : Cache τ) (t : τ) : Cache τ := { cache with underWay := cache.underWay ++ [t] }

/-- The declaration begun last has ended. -/
def pop (cache : Cache τ) : Cache τ := { cache with underWay := cache.underWay.dropLast }

/-- Publishes a registry. -/
def publish (cache : Cache τ) (t : τ) (registry : Registry τ) : Cache τ :=
  { cache with published := cache.published ++ [(t, registry)] }

end Cache

namespace Family

variable {τ : Type} [DecidableEq τ]

/-- What a request answers, and the cache after it. -/
abbrev Outcome (τ : Type) (α : Type) := Except LoadError α × Cache τ

/-- Carries out actions in order, where `load` answers requests for parents. -/
def carryOutWith (load : τ → Cache τ → Outcome τ (Registry τ)) :
    List (Action τ) → Declaration τ → Cache τ → Outcome τ (Declaration τ)
  | [], d, cache => (.ok d, cache)
  | .inherit parent :: rest, d, cache =>
    match load parent cache with
    | (.ok registry, cache) => carryOutWith load rest (d.inherit registry) cache
    | (.error (.invalid error), cache) => carryOutWith load rest (d.fail error) cache
    | (.error (.aborted message), cache) => (.error (.aborted message), cache)
  | .field name f :: rest, d, cache => carryOutWith load rest (d.field name f) cache
  | .fail error :: rest, d, cache => carryOutWith load rest (d.fail error) cache
  | .abort message :: _, _, cache => (.error (.aborted message), cache)

/-- The error of a type that is asked for while it is under way. -/
def cyclic (family : Family τ) (cache : Cache τ) (t : τ) : LoadError :=
  .invalid (.cyclicInheritance (family.name t) (family.chain cache.underWay t))

/-- Answers a request with at most `depth` declarations begun on top of those under way.  As many
as the family has types are always enough, since no type is under way twice. -/
def requestWithin (family : Family τ) : Nat → τ → Cache τ → Outcome τ (Registry τ)
  | 0, t, cache =>
    match cache.get? t with
    | some registry => (.ok registry, cache)
    | none => (.error (family.cyclic cache t), cache)
  | depth + 1, t, cache =>
    match cache.get? t with
    | some registry => (.ok registry, cache)
    | none =>
      if t ∈ cache.underWay then (.error (family.cyclic cache t), cache)
      else
        match carryOutWith (family.requestWithin depth) (family.declare t) .empty
            (cache.push t) with
        | (.error error, cache) => (.error error, cache.pop)
        | (.ok d, cache) =>
          match d.build (family.name t) (.typed t) with
          | .error error => (.error (.invalid error), cache.pop)
          | .ok registry => (.ok registry, cache.pop.publish t registry)

/-- The registry of a type: the published one, or a new one, which is then published. -/
def request (family : Family τ) (t : τ) (cache : Cache τ) : Outcome τ (Registry τ) :=
  family.requestWithin family.all.length t cache

end Family

end ModelSchema
