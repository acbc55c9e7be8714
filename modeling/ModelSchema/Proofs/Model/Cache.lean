import Mathlib.Data.List.Perm.Subperm
import ModelSchema.Model.Cache
import ModelSchema.Proofs.Model.Family

/-!
# The cache shows in no answer

A request answers from the cache, or declares a type and publishes its registry.  What is published
was built, and a type that was built has one registry on every stack that leads to it, so a
published registry is the one that would be built again.  All answers are therefore those of
`Family.build`, whatever was asked before and whatever came of it.

Main results:

- Theorem `Family.carryOutWith_spec`: one declaration, as far as its parents are answered as they
  would be built.
- Theorem `Family.requestWithin_spec`: one request, on a stack that leads to the type.
- Theorem `Family.answers_eq_map_build`: all requests from an empty cache.
-/

namespace ModelSchema

variable {τ : Type} [DecidableEq τ]

namespace Cache

variable {family : Family τ} {cache : Cache τ} {t : τ}

/-- What is published was built, with nothing under way. -/
def Sound (family : Family τ) (cache : Cache τ) : Prop :=
  ∀ t r, cache.get? t = some r → family.build t = .ok r

omit [DecidableEq τ] in
@[simp] theorem underWay_pop (cache : Cache τ) : cache.pop.underWay = cache.underWay.dropLast := rfl

/-- Nothing is published in an empty cache. -/
theorem sound_empty : Sound family .empty := by
  intro t r h
  cases h

/-- A cache stays sound when a registry is published that was built. -/
theorem Sound.publish (h : cache.Sound family) {r : Registry τ} (hr : family.build t = .ok r) :
    (cache.publish t r).Sound family := by
  intro other found hfound
  rw [get?, Cache.publish, List.lookup_append, Option.or_eq_some_iff] at hfound
  rcases hfound with hold | ⟨-, hnew⟩
  · exact h other found hold
  · by_cases hother : other = t
    · subst hother
      rw [List.lookup_cons_self, Option.some.injEq] at hnew
      rw [hr, hnew]
    · simp [List.lookup_cons, beq_false_of_ne hother] at hnew

end Cache

namespace Family

variable {family : Family τ}

/-- An outcome agrees with an answer, and leaves a sound cache with the same types under way. -/
structure Agrees {α : Type} (family : Family τ) (stack : List τ) (outcome : Outcome τ α)
    (answer : Except LoadError α) : Prop where
  answer : outcome.1 = answer
  underWay : outcome.2.underWay = stack
  sound : outcome.2.Sound family

/-- Carrying out a declaration with the cache agrees with carrying it out without, as far as
requests for parents do. -/
theorem carryOutWith_spec {load : τ → Cache τ → Outcome τ (Registry τ)}
    {plain : τ → Except LoadError (Registry τ)} {stack : List τ} {actions : List (Action τ)}
    (hload : ∀ parent, Action.inherit parent ∈ actions → ∀ cache : Cache τ,
      cache.underWay = stack → cache.Sound family →
        family.Agrees stack (load parent cache) (plain parent))
    (d : Declaration τ) (cache : Cache τ) (hstack : cache.underWay = stack)
    (hsound : cache.Sound family) :
    family.Agrees stack (carryOutWith load actions d cache) (carryOut plain actions d) := by
  induction actions generalizing d cache with
  | nil => exact ⟨rfl, hstack, hsound⟩
  | cons action rest ih =>
    have hrest := ih fun parent hparent => hload parent (List.mem_cons_of_mem _ hparent)
    cases action with
    | inherit parent =>
      obtain ⟨hanswer, hafter, hsafter⟩ := hload parent List.mem_cons_self cache hstack hsound
      rw [carryOutWith, carryOut, ← hanswer]
      generalize load parent cache = outcome at hafter hsafter ⊢
      obtain ⟨answer, after⟩ := outcome
      cases answer with
      | ok r => exact hrest _ after hafter hsafter
      | error cause =>
        cases cause with
        | invalid error => exact hrest _ after hafter hsafter
        | aborted message => exact ⟨rfl, hafter, hsafter⟩
    | field name f => exact hrest _ cache hstack hsound
    | fail error => exact hrest _ cache hstack hsound
    | abort message => exact ⟨rfl, hstack, hsound⟩

/-- A published registry is what the type would be built to, on every stack that leads to it. -/
theorem buildOn_eq_ok_of_published {t : τ} {cache : Cache τ} (hsound : cache.Sound family)
    (hleads : ∀ s ∈ cache.underWay, Relation.TransGen family.Inherits s t) {r : Registry τ}
    (hr : cache.get? t = some r) : family.buildOn cache.underWay t = .ok r := by
  have hbuild : family.buildOn [] t = .ok r := hsound t r hr
  refine buildOn_of_forall_not_reaches hbuild fun s hs hreach => ?_
  exact not_transGen_self_of_buildOn_eq_ok hbuild
    (Relation.TransGen.trans_right hreach (hleads s hs))

omit [DecidableEq τ] in
/-- If as many different types are under way as the family has, all are. -/
theorem mem_underWay_of_length_le {cache : Cache τ} (hnodup : cache.underWay.Nodup)
    (hlength : family.all.length ≤ cache.underWay.length) (t : τ) : t ∈ cache.underWay := by
  have hsub : cache.underWay ⊆ family.all := fun s _ => family.mem_all s
  exact ((List.subperm_of_subset hnodup hsub).perm_of_length_le hlength).mem_iff.mpr
    (family.mem_all t)

/-- The end of a declaration: the type is under way no more, and its registry is published if it
has one. -/
theorem agrees_of_declared {stack : List τ} {t : τ} (hmem : t ∉ stack)
    {outcome : Outcome τ (Declaration τ)}
    (h : family.Agrees (stack ++ [t]) outcome
      (carryOut (family.buildOn (stack ++ [t])) (family.declare t) .empty)) :
    family.Agrees stack
      (match outcome with
        | (.error error, cache) => (.error error, cache.pop)
        | (.ok d, cache) =>
          match d.build (family.name t) (.typed t) with
          | .error error => (.error (.invalid error), cache.pop)
          | .ok registry => (.ok registry, cache.pop.publish t registry))
      (family.buildOn stack t) := by
  obtain ⟨answer, after⟩ := outcome
  obtain ⟨hanswer, hafter, hsafter⟩ := h
  have hstep := buildOn_eq family stack t
  rw [if_neg hmem, ← hanswer] at hstep
  have hpop : after.pop.underWay = stack := by
    have hunderWay : after.underWay = stack ++ [t] := hafter
    simp [hunderWay]
  cases answer with
  | error error => exact ⟨hstep.symm, hpop, hsafter⟩
  | ok d =>
    simp only [bind, Except.bind] at hstep
    cases hbuild : d.build (family.name t) (.typed t) with
    | error error =>
      simp only [hbuild] at hstep ⊢
      exact ⟨hstep.symm, hpop, hsafter⟩
    | ok r =>
      simp only [hbuild] at hstep ⊢
      have halone : family.build t = .ok r := buildOn_of_forall_not_reaches hstep (by simp)
      have hsound : after.pop.Sound family := hsafter
      exact ⟨hstep.symm, hpop, hsound.publish halone⟩

/-- A request on a stack of types that lead to the type agrees with building the type on that
stack. -/
theorem requestWithin_spec {depth : Nat} {t : τ} {cache : Cache τ}
    (hsound : cache.Sound family) (hnodup : cache.underWay.Nodup)
    (hleads : ∀ s ∈ cache.underWay, Relation.TransGen family.Inherits s t)
    (hdepth : family.all.length ≤ depth + cache.underWay.length) :
    family.Agrees cache.underWay (family.requestWithin depth t cache)
      (family.buildOn cache.underWay t) := by
  induction depth generalizing t cache with
  | zero =>
    rw [requestWithin]
    cases hget : cache.get? t with
    | some r => exact ⟨(buildOn_eq_ok_of_published hsound hleads hget).symm, rfl, hsound⟩
    | none =>
      have hmem : t ∈ cache.underWay :=
        mem_underWay_of_length_le hnodup (by simpa using hdepth) t
      rw [buildOn_eq, if_pos hmem]
      exact ⟨rfl, rfl, hsound⟩
  | succ depth ih =>
    rw [requestWithin]
    cases hget : cache.get? t with
    | some r => exact ⟨(buildOn_eq_ok_of_published hsound hleads hget).symm, rfl, hsound⟩
    | none =>
      by_cases hmem : t ∈ cache.underWay
      · simp only [if_pos hmem]
        rw [buildOn_eq, if_pos hmem]
        exact ⟨rfl, rfl, hsound⟩
      · simp only [if_neg hmem]
        have hparents : ∀ parent, Action.inherit parent ∈ family.declare t → ∀ below : Cache τ,
            below.underWay = cache.underWay ++ [t] → below.Sound family →
              family.Agrees (cache.underWay ++ [t]) (family.requestWithin depth parent below)
                (family.buildOn (cache.underWay ++ [t]) parent) := by
          intro parent hparent below hbelow hsbelow
          rw [← hbelow]
          refine ih hsbelow ?_ ?_ ?_
          · rw [hbelow]
            simpa using hnodup.concat hmem
          · rw [hbelow, List.forall_mem_append]
            exact ⟨fun s hs => (hleads s hs).tail hparent, by simpa using .single hparent⟩
          · rw [hbelow, List.length_append, List.length_singleton]
            omega
        exact agrees_of_declared hmem
          (carryOutWith_spec hparents .empty (cache.push t) rfl hsound)

/-- The answers to requests, one after another. -/
def answers (family : Family τ) : List τ → Cache τ → List (Except LoadError (Registry τ))
  | [], _ => []
  | t :: rest, cache => (family.request t cache).1 :: family.answers rest (family.request t cache).2

/-- Requests to a sound cache with nothing under way are answered as each type is built on its
own. -/
theorem answers_eq_map_build_of_sound (requests : List τ) {cache : Cache τ}
    (hsound : cache.Sound family) (hunderWay : cache.underWay = []) :
    family.answers requests cache = requests.map family.build := by
  induction requests generalizing cache with
  | nil => rfl
  | cons t rest ih =>
    have hrequest : family.Agrees cache.underWay (family.request t cache)
        (family.buildOn cache.underWay t) :=
      requestWithin_spec hsound (by simp [hunderWay]) (by simp [hunderWay]) (by simp)
    rw [hunderWay] at hrequest
    rw [answers, List.map_cons, hrequest.answer, ih hrequest.sound hrequest.underWay]
    rfl

/-- Requests to an empty cache, in any order and any number, are answered as each type is built on
its own, without a cache and with nothing under way: with the same registry, the same error or the
same message of a step that gave up. -/
theorem answers_eq_map_build (family : Family τ) (requests : List τ) :
    family.answers requests .empty = requests.map family.build :=
  answers_eq_map_build_of_sound requests Cache.sound_empty rfl

end Family
end ModelSchema
