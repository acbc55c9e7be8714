import Mathlib.Logic.Relation
import ModelSchema.Model.Family
import ModelSchema.Proofs.Model.Registry
import ModelSchema.Proofs.Outcome

/-!
# Building types of a family

A type is built with the types on a stack under way.  The stack can only turn a registry into a
refusal, and it does so only for types that are inherited again; a type that has a registry on some
stack has the same one on every stack that it does not inherit from.

Main results:

- Theorem `Family.buildOn_eq_ok_iff`: one step of building a type.
- Theorem `Family.notMem_of_buildOn_eq_ok`: a type with a registry inherits from no type under way.
- Theorem `Family.not_transGen_self_of_buildOn_eq_ok`: nor does it inherit from itself.
- Theorem `Family.buildOn_of_forall_not_reaches`: its registry does not depend on the stack.
-/

namespace ModelSchema

variable {τ : Type} [DecidableEq τ]

namespace Family

variable {family : Family τ}

/-- A type inherits from another one in its declaration. -/
def Inherits (family : Family τ) (child parent : τ) : Prop :=
  Action.inherit parent ∈ family.declare child

/-! ## Carrying out declarations -/

section CarryOut

variable {load load' : τ → Except LoadError (Registry τ)} {actions : List (Action τ)}
  {d d' : Declaration τ}

omit [DecidableEq τ] in
/-- A declaration with an error keeps an error. -/
theorem fail_error_ne_none (d : Declaration τ) (error : ModelError) :
    (d.fail error).error ≠ none := by
  unfold Declaration.fail
  cases d.error <;> simp

omit [DecidableEq τ] in
/-- If a declaration ends without an error, it began without one and all its parents were loaded. -/
theorem loaded_of_carryOut_eq_ok (h : carryOut load actions d = .ok d')
    (herror : d'.error = none) :
    d.error = none ∧ ∀ parent, Action.inherit parent ∈ actions → ∃ r, load parent = .ok r := by
  induction actions generalizing d with
  | nil =>
    obtain rfl : d = d' := by simpa [carryOut] using h
    exact ⟨herror, by simp⟩
  | cons action rest ih =>
    cases action with
    | inherit parent =>
      rw [carryOut] at h
      cases hload : load parent with
      | ok r =>
        simp only [hload] at h
        obtain ⟨hd, hrest⟩ := ih h
        refine ⟨hd, fun other hother => ?_⟩
        rcases List.mem_cons.mp hother with heq | hother
        · obtain rfl : other = parent := by simpa using heq
          exact ⟨r, hload⟩
        · exact hrest other hother
      | error cause =>
        cases cause with
        | invalid error =>
          simp only [hload] at h
          exact absurd (ih h).1 (fail_error_ne_none d error)
        | aborted message => simp [hload] at h
    | field name f =>
      obtain ⟨hd, hrest⟩ := ih h
      exact ⟨hd, fun parent hparent => hrest parent (by simpa using hparent)⟩
    | fail error => exact absurd (ih h).1 (fail_error_ne_none d error)
    | abort message => simp [carryOut] at h

omit [DecidableEq τ] in
/-- Only the answers for parents matter to a declaration. -/
theorem carryOut_congr
    (h : ∀ parent, Action.inherit parent ∈ actions → load parent = load' parent) :
    carryOut load actions d = carryOut load' actions d := by
  induction actions generalizing d with
  | nil => rfl
  | cons action rest ih =>
    have hrest : ∀ {d}, carryOut load rest d = carryOut load' rest d :=
      ih fun parent hparent => h parent (List.mem_cons_of_mem _ hparent)
    cases action with
    | inherit parent =>
      rw [carryOut, carryOut, h parent List.mem_cons_self]
      simp only [hrest]
    | field name f => exact hrest
    | fail error => exact hrest
    | abort message => rfl

end CarryOut

/-! ## Building on a stack -/

section Build

variable {stack stack' : List τ} {t : τ} {r : Registry τ}

/-- A type that is under way is refused; any other is declared and resolved with one more type under
way. -/
theorem buildOn_eq (family : Family τ) (stack : List τ) (t : τ) :
    family.buildOn stack t =
      if t ∈ stack then
        .error (.invalid (.cyclicInheritance (family.name t) (family.chain stack t)))
      else carryOut (family.buildOn (stack ++ [t])) (family.declare t) .empty >>= fun d =>
        (d.build (family.name t) (.typed t)).mapError .invalid := by
  rw [buildOn]
  congr 1
  cases carryOut (family.buildOn (stack ++ [t])) (family.declare t) .empty with
  | error error => rfl
  | ok d => rfl

/-- A type has a registry if it is not under way and its declaration resolves. -/
theorem buildOn_eq_ok_iff :
    family.buildOn stack t = .ok r ↔
      t ∉ stack ∧ ∃ d, carryOut (family.buildOn (stack ++ [t])) (family.declare t) .empty = .ok d ∧
        d.build (family.name t) (.typed t) = .ok r := by
  rw [buildOn_eq]
  split
  · rename_i hmem
    simp [hmem]
  · rename_i hmem
    simp [hmem, bind_eq_ok_iff, mapError_eq_ok_iff]

/-- Induction along declarations: what holds of a type follows from what holds of all types with
that type under way in addition. -/
@[elab_as_elim]
theorem stack_induction (family : Family τ) {motive : List τ → τ → Prop}
    (cyclic : ∀ stack t, t ∈ stack → motive stack t)
    (step : ∀ stack t, t ∉ stack → (∀ parent, motive (stack ++ [t]) parent) → motive stack t)
    (stack : List τ) (t : τ) : motive stack t := by
  induction stack, t using buildOn.induct family with
  | case1 stack t hmem => exact cyclic stack t hmem
  | case2 stack t hmem _ _ ih => exact step stack t hmem ih
  | case3 stack t hmem _ _ ih => exact step stack t hmem ih

/-- The parents of a type with a registry have registries. -/
theorem exists_buildOn_of_inherits (h : family.buildOn stack t = .ok r) {parent : τ}
    (hparent : family.Inherits t parent) : ∃ p, family.buildOn (stack ++ [t]) parent = .ok p := by
  obtain ⟨-, d, hcarry, hbuild⟩ := buildOn_eq_ok_iff.mp h
  obtain ⟨herror, -⟩ := Declaration.build_eq_ok_iff.mp hbuild
  exact (loaded_of_carryOut_eq_ok hcarry herror).2 parent hparent

/-- A type with a registry is not under way, and inherits from no type that is. -/
theorem notMem_of_buildOn_eq_ok (h : family.buildOn stack t = .ok r) {ancestor : τ}
    (hancestor : Relation.ReflTransGen family.Inherits t ancestor) : ancestor ∉ stack := by
  induction stack, t using stack_induction family generalizing r with
  | cyclic stack t hmem => exact absurd hmem (buildOn_eq_ok_iff.mp h).1
  | step stack t hmem ih =>
    rcases hancestor.cases_head with rfl | ⟨parent, hparent, hrest⟩
    · exact hmem
    · obtain ⟨p, hp⟩ := exists_buildOn_of_inherits h hparent
      intro hstack
      exact ih parent hp hrest (List.mem_append_left _ hstack)

/-- A type with a registry does not inherit from itself. -/
theorem not_transGen_self_of_buildOn_eq_ok (h : family.buildOn stack t = .ok r) :
    ¬ Relation.TransGen family.Inherits t t := by
  intro hcycle
  obtain ⟨parent, hparent, hrest⟩ := Relation.TransGen.head'_iff.mp hcycle
  obtain ⟨p, hp⟩ := exists_buildOn_of_inherits h hparent
  exact notMem_of_buildOn_eq_ok hp hrest (by simp)

/-- The registry of a type is the same on every stack that it does not inherit from. -/
theorem buildOn_of_forall_not_reaches (h : family.buildOn stack t = .ok r)
    (hstack : ∀ s ∈ stack', ¬ Relation.ReflTransGen family.Inherits t s) :
    family.buildOn stack' t = .ok r := by
  induction stack, t using stack_induction family generalizing stack' r with
  | cyclic stack t hmem => exact absurd hmem (buildOn_eq_ok_iff.mp h).1
  | step stack t hmem ih =>
    have hself := not_transGen_self_of_buildOn_eq_ok h
    obtain ⟨-, d, hcarry, hbuild⟩ := buildOn_eq_ok_iff.mp h
    have hparents : ∀ parent, Action.inherit parent ∈ family.declare t →
        family.buildOn (stack ++ [t]) parent = family.buildOn (stack' ++ [t]) parent := by
      intro parent hparent
      obtain ⟨p, hp⟩ := exists_buildOn_of_inherits h hparent
      rw [hp, ih parent hp]
      intro s hs hreach
      rcases List.mem_append.mp hs with hs | hs
      · exact hstack s hs (hreach.head hparent)
      · rw [List.mem_singleton.mp hs] at hreach
        exact hself (Relation.TransGen.head' hparent hreach)
    refine buildOn_eq_ok_iff.mpr ⟨fun hs => hstack t hs .refl, d, ?_, hbuild⟩
    rw [← carryOut_congr hparents]
    exact hcarry

end Build

end Family
end ModelSchema
