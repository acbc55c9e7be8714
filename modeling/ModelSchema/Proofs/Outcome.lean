import Mathlib.Data.List.Forall2

/-!
# Outcomes of steps that can fail

A step yields a value or an error.  The lemmas here take a successful or failed sequence of steps
apart, so that later proofs name the intermediate values and need not open the definitions.
-/

namespace ModelSchema

variable {ε ε' α β : Type}

/-- A sequence of two steps succeeds if both do. -/
theorem bind_eq_ok_iff {x : Except ε α} {f : α → Except ε β} {b : β} :
    x >>= f = .ok b ↔ ∃ a, x = .ok a ∧ f a = .ok b := by
  cases x with
  | error e => simp [bind, Except.bind]
  | ok a => simp [bind, Except.bind]

/-- A sequence of two steps fails if the first does, or the second after it. -/
theorem bind_eq_error_iff {x : Except ε α} {f : α → Except ε β} {e : ε} :
    x >>= f = .error e ↔ x = .error e ∨ ∃ a, x = .ok a ∧ f a = .error e := by
  cases x with
  | error e => simp [bind, Except.bind]
  | ok a => simp [bind, Except.bind]

/-- A changed value comes from a value. -/
theorem map_eq_ok_iff {x : Except ε α} {f : α → β} {b : β} :
    x.map f = .ok b ↔ ∃ a, x = .ok a ∧ f a = b := by
  cases x with
  | error e => simp [Except.map]
  | ok a => simp [Except.map]

/-- Changing the value keeps an error. -/
theorem map_eq_error_iff {x : Except ε α} {f : α → β} {e : ε} :
    x.map f = .error e ↔ x = .error e := by
  cases x with
  | error e => simp [Except.map]
  | ok a => simp [Except.map]

/-- Changing the error keeps a value. -/
theorem mapError_eq_ok_iff {x : Except ε α} {f : ε → ε'} {a : α} :
    x.mapError f = .ok a ↔ x = .ok a := by
  cases x with
  | error e => simp [Except.mapError]
  | ok a => simp [Except.mapError]

/-- A changed error comes from an error. -/
theorem mapError_eq_error_iff {x : Except ε α} {f : ε → ε'} {e : ε'} :
    x.mapError f = .error e ↔ ∃ e', x = .error e' ∧ f e' = e := by
  cases x with
  | error e => simp [Except.mapError]
  | ok a => simp [Except.mapError]

/-! ## Errors -/

/-- The error of an outcome that is not a value. -/
def error? : Except ε α → Option ε
  | .ok _ => none
  | .error e => some e

theorem error?_eq_some_iff {x : Except ε α} {e : ε} : error? x = some e ↔ x = .error e := by
  cases x <;> simp [error?]

theorem error?_eq_none_iff {x : Except ε α} : error? x = none ↔ ∃ a, x = .ok a := by
  cases x <;> simp [error?]

/-- Changing the value makes no difference to the error. -/
theorem error?_map (x : Except ε α) (f : α → β) : error? (x.map f) = error? x := by
  cases x <;> rfl

/-- The error of two steps is that of the first, or else that of the second, if that does not
depend on the value of the first. -/
theorem error?_bind {x : Except ε α} {f : α → Except ε β} {later : Option ε}
    (h : ∀ a, error? (f a) = later) : error? (x >>= f) = (error? x).or later := by
  cases x with
  | error e => rfl
  | ok a => exact h a

/-- A second step that cannot fail makes no difference to the error. -/
theorem error?_bind_of_forall {x : Except ε α} {f : α → Except ε β}
    (h : ∀ a, error? (f a) = none) : error? (x >>= f) = error? x := by
  rw [error?_bind h, Option.or_none]

/-- Of items that are looked at one after another, the first one with a result decides. -/
theorem findSome?_cons_or (f : α → Option β) (a : α) (rest : List α) :
    (a :: rest).findSome? f = (f a).or (rest.findSome? f) := by
  rw [List.findSome?_cons]
  cases f a <;> rfl

/-- The first result of what some items yield. -/
theorem findSome?_filterMap {γ : Type} (f : β → Option γ) (g : α → Option β) (items : List α) :
    (items.filterMap g).findSome? f = items.findSome? fun a => (g a).bind f := by
  rw [← List.head?_filterMap, List.filterMap_filterMap, List.head?_filterMap]

/-- The first result of several lists, one after another. -/
theorem findSome?_flatMap {γ : Type} (f : β → Option γ) (g : α → List β) (items : List α) :
    (items.flatMap g).findSome? f = items.findSome? fun a => (g a).findSome? f := by
  rw [← List.head?_filterMap, List.filterMap_flatMap, List.head?_flatMap]
  simp only [List.head?_filterMap]

end ModelSchema
