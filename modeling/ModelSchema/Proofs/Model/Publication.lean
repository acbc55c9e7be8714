import ModelSchema.Proofs.Model.Cache

/-!
# What requests leave behind

A request begins declarations and ends each of them again, whether it answers with a registry, with
an error or not at all because a step gave up.  All that it leaves behind are registries that were
not published before, each of them complete and with its ancestors beside it.

Main results:

- Theorem `Family.request_ends`: one request, in terms of the requests for parents.
- Theorem `Family.request_grows`: a request takes nothing from the cache.
- Theorem `Family.request_wellKept`: a request keeps the cache in order.
- Theorem `Family.request_after_requests`: any request after any others, and all that is asked for
  on its behalf.
-/

namespace ModelSchema

open Relation

variable {τ : Type}

/-! ## Caches that grow -/

namespace Cache

variable {family : Family τ} {cache after below : Cache τ} {t : τ} {r : Registry τ}

/-- The types with a published registry, in the order of publication. -/
def types (cache : Cache τ) : List τ := cache.published.map Prod.fst

@[simp] theorem types_push (cache : Cache τ) (t : τ) : (cache.push t).types = cache.types := rfl

@[simp] theorem types_pop (cache : Cache τ) : cache.pop.types = cache.types := rfl

@[simp] theorem types_publish (cache : Cache τ) (t : τ) (r : Registry τ) :
    (cache.publish t r).types = cache.types ++ [t] := by
  simp [types, publish]

@[simp] theorem underWay_push (cache : Cache τ) (t : τ) :
    (cache.push t).underWay = cache.underWay ++ [t] := rfl

/-- The same types are under way in the other cache, and what is published here comes first
there. -/
structure Grows (cache after : Cache τ) : Prop where
  underWay : after.underWay = cache.underWay
  published : cache.published <+: after.published

namespace Grows

theorem refl (cache : Cache τ) : cache.Grows cache := ⟨rfl, List.prefix_refl _⟩

theorem trans (h : cache.Grows below) (h' : below.Grows after) : cache.Grows after :=
  ⟨h'.underWay.trans h.underWay, h.published.trans h'.published⟩

/-- A cache that grew below a declaration has grown when the declaration is over. -/
theorem pop (h : (cache.push t).Grows below) : cache.Grows below.pop := by
  refine ⟨?_, h.published⟩
  simp [h.underWay]

theorem publish (h : cache.Grows after) (t : τ) (r : Registry τ) :
    cache.Grows (after.publish t r) :=
  ⟨h.underWay, h.published.trans (List.prefix_append _ _)⟩

theorem mem_types (h : cache.Grows after) (ht : t ∈ cache.types) : t ∈ after.types :=
  (h.published.map Prod.fst).subset ht

end Grows

/-! ## Caches in order -/

variable [DecidableEq τ]

/-- The types with a published registry are those for which one is found. -/
theorem mem_types_iff : t ∈ cache.types ↔ ∃ r, cache.get? t = some r := by
  rw [← Option.isSome_iff_exists, get?, types]
  simp [List.lookup_isSome_iff]

/-- What is published was built, each type once and with all of its ancestors, of which none
inherits from itself; no type that is under way is published. -/
structure WellKept (family : Family τ) (cache : Cache τ) : Prop where
  sound : cache.Sound family
  once : cache.types.Nodup
  unpublished : ∀ t ∈ cache.underWay, t ∉ cache.types
  closed : ∀ t ∈ cache.types, ∀ ancestor, ReflTransGen family.Inherits t ancestor →
    ancestor ∈ cache.types
  acyclic : ∀ t ∈ cache.types, ∀ ancestor, ReflTransGen family.Inherits t ancestor →
    ¬ TransGen family.Inherits ancestor ancestor

namespace WellKept

theorem empty : Cache.empty.WellKept family where
  sound := sound_empty
  once := List.nodup_nil
  unpublished := by simp [Cache.empty]
  closed := by simp [types, Cache.empty]
  acyclic := by simp [types, Cache.empty]

theorem push (h : cache.WellKept family) (ht : t ∉ cache.types) :
    (cache.push t).WellKept family where
  sound := h.sound
  once := h.once
  unpublished := by
    rw [underWay_push, List.forall_mem_append, List.forall_mem_singleton]
    exact ⟨h.unpublished, ht⟩
  closed := h.closed
  acyclic := h.acyclic

theorem pop (h : cache.WellKept family) : cache.pop.WellKept family where
  sound := h.sound
  once := h.once
  unpublished s hs := h.unpublished s ((List.dropLast_sublist _).subset hs)
  closed := h.closed
  acyclic := h.acyclic

/-- A cache stays in order when the registry of a new type is published whose parents are
published. -/
theorem publish (h : cache.WellKept family) (hr : family.build t = .ok r) (ht : t ∉ cache.types)
    (hunderWay : t ∉ cache.underWay)
    (hparents : ∀ parent, family.Inherits t parent → parent ∈ cache.types) :
    (cache.publish t r).WellKept family where
  sound := h.sound.publish hr
  once := by
    rw [types_publish]
    simpa using h.once.concat ht
  unpublished s hs := by
    rw [types_publish, List.mem_append, List.mem_singleton, not_or]
    refine ⟨h.unpublished s hs, ?_⟩
    rintro rfl
    exact hunderWay hs
  closed := by
    rw [types_publish, List.forall_mem_append, List.forall_mem_singleton]
    refine ⟨fun s hs ancestor hreach => List.mem_append_left _ (h.closed s hs ancestor hreach),
      fun ancestor hreach => ?_⟩
    rcases hreach.cases_head with rfl | ⟨parent, hparent, hrest⟩
    · simp
    · exact List.mem_append_left _ (h.closed parent (hparents parent hparent) ancestor hrest)
  acyclic := by
    rw [types_publish, List.forall_mem_append, List.forall_mem_singleton]
    refine ⟨h.acyclic, fun ancestor hreach => ?_⟩
    rcases hreach.cases_head with rfl | ⟨parent, hparent, hrest⟩
    · exact Family.not_transGen_self_of_buildOn_eq_ok hr
    · exact h.acyclic parent (hparents parent hparent) ancestor hrest

end WellKept

end Cache

namespace Family

variable {family : Family τ} {cache : Cache τ} {t : τ}

/-! ## Declarations -/

section CarryOut

variable {load load' : τ → Cache τ → Outcome τ (Registry τ)} {actions : List (Action τ)}

/-- What requests for parents keep is kept by a declaration, however it ends. -/
theorem carryOutWith_invariant {P : Cache τ → Prop}
    (hload : ∀ parent, Action.inherit parent ∈ actions → ∀ cache, P cache →
      P (load parent cache).2)
    (d : Declaration τ) {cache : Cache τ} (h : P cache) :
    P (carryOutWith load actions d cache).2 := by
  induction actions generalizing d cache with
  | nil => exact h
  | cons action rest ih =>
    have hrest : ∀ d {cache}, P cache → P (carryOutWith load rest d cache).2 :=
      ih fun parent hparent => hload parent (List.mem_cons_of_mem _ hparent)
    cases action with
    | inherit parent =>
      have hafter := hload parent List.mem_cons_self cache h
      rw [carryOutWith]
      generalize load parent cache = outcome at hafter ⊢
      obtain ⟨answer, after⟩ := outcome
      cases answer with
      | ok r => exact hrest _ hafter
      | error cause =>
        cases cause with
        | invalid error => exact hrest _ hafter
        | aborted message => exact hafter
    | field name f => exact hrest _ h
    | fail error => exact hrest _ h
    | abort message => exact h

/-- Only the answers for parents on the stack of the declaration matter to it. -/
theorem carryOutWith_congr (stack : List τ)
    (hunderWay : ∀ parent cache, (load parent cache).2.underWay = cache.underWay)
    (hload : ∀ parent cache, cache.underWay = stack → load parent cache = load' parent cache)
    (d : Declaration τ) {cache : Cache τ} (h : cache.underWay = stack) :
    carryOutWith load actions d cache = carryOutWith load' actions d cache := by
  induction actions generalizing d cache with
  | nil => rfl
  | cons action rest ih =>
    cases action with
    | inherit parent =>
      have hafter : (load parent cache).2.underWay = stack := (hunderWay parent cache).trans h
      rw [carryOutWith, carryOutWith, ← hload parent cache h]
      generalize load parent cache = outcome at hafter ⊢
      obtain ⟨answer, after⟩ := outcome
      cases answer with
      | ok r => exact ih _ hafter
      | error cause =>
        cases cause with
        | invalid error => exact ih _ hafter
        | aborted message => rfl
    | field name f => exact ih _ h
    | fail error => exact ih _ h
    | abort message => rfl

/-- If a declaration ends without an error, all its parents are published after it, provided that
each of them is when it is answered. -/
theorem mem_types_of_carryOutWith {cache after : Cache τ} {d d' : Declaration τ}
    (hload : ∀ parent, Action.inherit parent ∈ actions → ∀ below : Cache τ,
      below.underWay = cache.underWay → below.Grows (load parent below).2 ∧
        ∀ r, (load parent below).1 = .ok r → parent ∈ (load parent below).2.types)
    (h : carryOutWith load actions d cache = (.ok d', after)) (herror : d'.error = none) :
    d.error = none ∧ ∀ parent, Action.inherit parent ∈ actions → parent ∈ after.types := by
  induction actions generalizing d cache with
  | nil =>
    obtain ⟨rfl, rfl⟩ : d = d' ∧ cache = after := by simpa [carryOutWith] using h
    exact ⟨herror, by simp⟩
  | cons action rest ih =>
    have hrest : ∀ below : Cache τ, below.underWay = cache.underWay →
        ∀ {d}, carryOutWith load rest d below = (.ok d', after) →
          d.error = none ∧ ∀ parent, Action.inherit parent ∈ rest → parent ∈ after.types :=
      fun below hbelow d h => ih (fun parent hparent other hother =>
        hload parent (List.mem_cons_of_mem _ hparent) other (hother.trans hbelow)) h
    cases action with
    | inherit parent =>
      obtain ⟨hgrows, hpublished⟩ := hload parent List.mem_cons_self cache rfl
      rw [carryOutWith] at h
      generalize load parent cache = outcome at hgrows hpublished h
      obtain ⟨answer, below⟩ := outcome
      cases answer with
      | ok r =>
        have hcarry : carryOutWith load rest (d.inherit r) below = (.ok d', after) := h
        obtain ⟨hd, hparents⟩ := hrest below hgrows.underWay hcarry
        have hafter : below.Grows (carryOutWith load rest (d.inherit r) below).2 :=
          carryOutWith_invariant (P := below.Grows)
            (fun other hother c hc => hc.trans
              (hload other (List.mem_cons_of_mem _ hother) c (hc.underWay.trans hgrows.underWay)).1)
            _ (.refl below)
        rw [hcarry] at hafter
        refine ⟨hd, fun other hother => ?_⟩
        rcases List.mem_cons.mp hother with heq | hother
        · obtain rfl : other = parent := by simpa using heq
          exact hafter.mem_types (hpublished r rfl)
        · exact hparents other hother
      | error cause =>
        cases cause with
        | invalid error =>
          exact absurd (hrest below hgrows.underWay h).1 (fail_error_ne_none d error)
        | aborted message => simp at h
    | field name f =>
      obtain ⟨hd, hparents⟩ := hrest cache rfl h
      exact ⟨hd, fun parent hparent => hparents parent (by simpa using hparent)⟩
    | fail error => exact absurd (hrest cache rfl h).1 (fail_error_ne_none d error)
    | abort message => simp [carryOutWith] at h

end CarryOut

variable [DecidableEq τ]

/-! ## Requests without a depth -/

/-- A request takes nothing from the cache and ends all declarations that it begins, whatever the
depth. -/
theorem requestWithin_grows (depth : Nat) (t : τ) (cache : Cache τ) :
    cache.Grows (family.requestWithin depth t cache).2 := by
  induction depth generalizing t cache with
  | zero =>
    rw [requestWithin]
    split <;> exact .refl cache
  | succ depth ih =>
    have hbelow : (cache.push t).Grows (carryOutWith (family.requestWithin depth)
        (family.declare t) .empty (cache.push t)).2 :=
      carryOutWith_invariant (fun parent _ below hbelow => hbelow.trans (ih parent below)) _
        (.refl _)
    rw [requestWithin]
    split
    · exact .refl cache
    · split
      · exact .refl cache
      · generalize carryOutWith (family.requestWithin depth) (family.declare t) .empty
          (cache.push t) = outcome at hbelow ⊢
        obtain ⟨answer, below⟩ := outcome
        cases answer with
        | error error => exact hbelow.pop
        | ok d =>
          dsimp only
          cases d.build (family.name t) (.typed t) with
          | error error => exact hbelow.pop
          | ok r => exact hbelow.pop.publish t r

/-- Any two depths that leave room for all types give the same outcome. -/
theorem requestWithin_eq_of_le {depth depth' : Nat} {t : τ} {cache : Cache τ}
    (hnodup : cache.underWay.Nodup) (hdepth : family.all.length ≤ depth + cache.underWay.length)
    (hdepth' : family.all.length ≤ depth' + cache.underWay.length) :
    family.requestWithin depth t cache = family.requestWithin depth' t cache := by
  induction depth generalizing depth' t cache with
  | zero =>
    have hmem : t ∈ cache.underWay := mem_underWay_of_length_le hnodup (by simpa using hdepth) t
    cases depth' with
    | zero => rfl
    | succ depth' => rw [requestWithin, requestWithin, if_pos hmem]
  | succ depth ih =>
    cases depth' with
    | zero =>
      have hmem : t ∈ cache.underWay := mem_underWay_of_length_le hnodup (by simpa using hdepth') t
      rw [requestWithin, requestWithin, if_pos hmem]
    | succ depth' =>
      rw [requestWithin, requestWithin]
      by_cases hmem : t ∈ cache.underWay
      · rw [if_pos hmem, if_pos hmem]
      · rw [if_neg hmem, if_neg hmem]
        rw [carryOutWith_congr (cache.underWay ++ [t])
          (fun parent below => (requestWithin_grows depth parent below).underWay) ?_ .empty rfl]
        intro parent below hbelow
        have hlength : below.underWay.length = cache.underWay.length + 1 := by simp [hbelow]
        refine ih ?_ (by omega) (by omega)
        rw [hbelow]
        simpa using hnodup.concat hmem

/-- How a request can end: with the published registry, with the error of a type that is under way,
with an error after a declaration, or with a new registry that is published. -/
inductive Ends (family : Family τ) (t : τ) (cache : Cache τ) : Outcome τ (Registry τ) → Prop where
  | published {r : Registry τ} (hget : cache.get? t = some r) : family.Ends t cache (.ok r, cache)
  | cyclic (hget : cache.get? t = none) (hmem : t ∈ cache.underWay) :
      family.Ends t cache (.error (family.cyclic cache t), cache)
  | refused {answer : Except LoadError (Declaration τ)} {below : Cache τ} (error : LoadError)
      (hget : cache.get? t = none) (hmem : t ∉ cache.underWay)
      (hcarry : carryOutWith family.request (family.declare t) .empty (cache.push t) =
        (answer, below)) :
      family.Ends t cache (.error error, below.pop)
  | built {d : Declaration τ} {below : Cache τ} {r : Registry τ} (hget : cache.get? t = none)
      (hmem : t ∉ cache.underWay)
      (hcarry : carryOutWith family.request (family.declare t) .empty (cache.push t) =
        (.ok d, below))
      (hbuild : d.build (family.name t) (.typed t) = .ok r) :
      family.Ends t cache (.ok r, below.pop.publish t r)

/-- A request ends in one of these ways, with the outcomes of requests for the parents. -/
theorem request_ends (family : Family τ) (t : τ) (hnodup : cache.underWay.Nodup) :
    family.Ends t cache (family.request t cache) := by
  obtain ⟨depth, hdepth⟩ : ∃ depth, family.all.length = depth + 1 :=
    Nat.exists_eq_succ_of_ne_zero (Nat.ne_of_gt (List.length_pos_of_mem (family.mem_all t)))
  rw [request, hdepth, requestWithin]
  cases hget : cache.get? t with
  | some r => exact .published hget
  | none =>
    by_cases hmem : t ∈ cache.underWay
    · simp only [if_pos hmem]
      exact .cyclic hget hmem
    · simp only [if_neg hmem]
      have hcarryEq :
          carryOutWith (family.requestWithin depth) (family.declare t) .empty (cache.push t) =
            carryOutWith family.request (family.declare t) .empty (cache.push t) := by
        refine carryOutWith_congr (cache.underWay ++ [t])
          (fun parent below => (requestWithin_grows depth parent below).underWay)
          (fun parent below hbelow => ?_) .empty rfl
        have hlength : below.underWay.length = cache.underWay.length + 1 := by simp [hbelow]
        refine requestWithin_eq_of_le ?_ (by omega) (by omega)
        rw [hbelow]
        simpa using hnodup.concat hmem
      rw [hcarryEq]
      cases hcarry : carryOutWith family.request (family.declare t) .empty (cache.push t) with
      | mk answer below =>
        cases answer with
        | error error => exact .refused error hget hmem hcarry
        | ok d =>
          dsimp only
          cases hbuild : d.build (family.name t) (.typed t) with
          | error error => exact .refused _ hget hmem hcarry
          | ok r => exact .built hget hmem hcarry hbuild

/-- Induction along requests: what holds of a request follows from what holds of all requests with
the type under way in addition. -/
@[elab_as_elim]
theorem request_induction (family : Family τ) {motive : τ → Cache τ → Prop}
    (step : ∀ t cache, (t ∉ cache.underWay → ∀ parent below,
      below.underWay = cache.underWay ++ [t] → motive parent below) → motive t cache)
    (t : τ) (cache : Cache τ) : motive t cache := by
  induction hrest : (family.all.filter (· ∉ cache.underWay)).length using Nat.strongRecOn
    generalizing t cache with
  | ind rest ih =>
    refine step t cache fun hmem parent below hbelow => ih _ ?_ parent below rfl
    rw [← hrest, hbelow]
    exact length_filter_notMem_lt (family.mem_all t) hmem

/-! ## What a request keeps -/

/-- A request takes nothing from the cache and ends all declarations that it begins. -/
theorem request_grows (t : τ) (cache : Cache τ) : cache.Grows (family.request t cache).2 :=
  requestWithin_grows _ t cache

/-- So does a declaration. -/
theorem carryOutWith_grows (family : Family τ) (actions : List (Action τ)) (d : Declaration τ)
    (cache : Cache τ) :
    cache.Grows (carryOutWith family.request actions d cache).2 :=
  carryOutWith_invariant (fun parent _ below hbelow => hbelow.trans (request_grows parent below)) d
    (.refl cache)

/-- A type that is answered with a registry is published then. -/
theorem mem_types_of_request_eq_ok (hnodup : cache.underWay.Nodup) {r : Registry τ}
    (h : (family.request t cache).1 = .ok r) : t ∈ (family.request t cache).2.types := by
  have hends := request_ends family t hnodup
  generalize family.request t cache = outcome at h hends ⊢
  cases hends with
  | published hget => exact Cache.mem_types_iff.mpr ⟨_, hget⟩
  | cyclic => cases h
  | refused => cases h
  | built => simp

/-- The state in which a type is asked for: the cache is in order, and each type under way leads to
the type. -/
structure Pending (family : Family τ) (t : τ) (cache : Cache τ) : Prop where
  kept : cache.WellKept family
  nodup : cache.underWay.Nodup
  leads : ∀ s ∈ cache.underWay, TransGen family.Inherits s t

namespace Pending

/-- What a request in such a state answers is what the type is built to on the stack. -/
theorem agrees (h : family.Pending t cache) :
    family.Agrees cache.underWay (family.request t cache) (family.buildOn cache.underWay t) :=
  requestWithin_spec h.kept.sound h.nodup h.leads (by simp)

/-- While a type is declared, its parents are asked for in such a state. -/
theorem parent (h : family.Pending t cache) (hmem : t ∉ cache.underWay) {parent : τ}
    (hparent : family.Inherits t parent) {below : Cache τ}
    (hunderWay : below.underWay = cache.underWay ++ [t]) (hkept : below.WellKept family) :
    family.Pending parent below where
  kept := hkept
  nodup := by
    rw [hunderWay]
    simpa using h.nodup.concat hmem
  leads := by
    rw [hunderWay, List.forall_mem_append, List.forall_mem_singleton]
    exact ⟨fun s hs => (h.leads s hs).tail hparent, .single hparent⟩

/-- A declaration keeps the cache in order as far as requests for parents do. -/
theorem wellKept_carryOutWith (h : family.Pending t cache) (hget : cache.get? t = none)
    {actions : List (Action τ)}
    (hload : ∀ parent, Action.inherit parent ∈ actions → ∀ below : Cache τ,
      below.underWay = cache.underWay ++ [t] → below.WellKept family →
        (family.request parent below).2.WellKept family) :
    (carryOutWith family.request actions .empty (cache.push t)).2.WellKept family := by
  have hnew : t ∉ cache.types := by
    rw [Cache.mem_types_iff, hget]
    simp
  have hkept : (carryOutWith family.request actions .empty (cache.push t)).2.underWay =
        cache.underWay ++ [t] ∧
      (carryOutWith family.request actions .empty (cache.push t)).2.WellKept family :=
    carryOutWith_invariant
      (P := fun below => below.underWay = cache.underWay ++ [t] ∧ below.WellKept family)
      (fun parent hparent below hbelow =>
        ⟨(request_grows parent below).underWay.trans hbelow.1,
          hload parent hparent below hbelow.1 hbelow.2⟩)
      .empty ⟨rfl, h.kept.push hnew⟩
  exact hkept.2

end Pending

/-- A request keeps the cache in order. -/
theorem request_wellKept (h : family.Pending t cache) :
    (family.request t cache).2.WellKept family := by
  induction t, cache using request_induction family with
  | step t cache ih =>
    have hbelow : cache.get? t = none → t ∉ cache.underWay →
        (carryOutWith family.request (family.declare t) .empty (cache.push t)).2.WellKept
          family := fun hget hmem => h.wellKept_carryOutWith hget
      fun parent hparent below hunderWay hkept =>
        ih hmem parent below hunderWay (h.parent hmem hparent hunderWay hkept)
    have hgrows := carryOutWith_grows family (family.declare t) .empty (cache.push t)
    have hanswer := h.agrees.answer
    have hends := request_ends family t h.nodup
    generalize family.request t cache = outcome at hanswer hends ⊢
    cases hends with
    | published => exact h.kept
    | cyclic => exact h.kept
    | refused error hget hmem hcarry =>
      have hkept := hbelow hget hmem
      rw [hcarry] at hkept
      exact hkept.pop
    | @built d below r hget hmem hcarry hbuild =>
      have hkept := hbelow hget hmem
      rw [hcarry] at hkept hgrows
      have hunderWay : below.underWay = cache.underWay ++ [t] := hgrows.underWay
      have halone : family.build t = .ok r := buildOn_of_forall_not_reaches hanswer.symm (by simp)
      refine hkept.pop.publish halone (hkept.unpublished t (by simp [hunderWay])) ?_ ?_
      · simpa [hunderWay] using hmem
      · have hloaded := mem_types_of_carryOutWith (fun parent hparent c hc => ?_) hcarry
          (Declaration.build_eq_ok_iff.mp hbuild).1
        · exact hloaded.2
        · refine ⟨request_grows parent c, fun r hr => mem_types_of_request_eq_ok ?_ hr⟩
          rw [hc, Cache.underWay_push]
          simpa using h.nodup.concat hmem

/-! ## Runs of requests -/

/-- While a type is declared, a parent is asked for, with what the actions before left behind. -/
inductive Asks (family : Family τ) : τ × Cache τ → τ × Cache τ → Prop where
  | parent {t parent : τ} {cache below : Cache τ} {before rest : List (Action τ)}
      {d : Declaration τ} (hget : cache.get? t = none) (hmem : t ∉ cache.underWay)
      (hdeclare : family.declare t = before ++ .inherit parent :: rest)
      (hcarry : carryOutWith family.request before .empty (cache.push t) = (.ok d, below)) :
      family.Asks (t, cache) (parent, below)

/-- Whatever is asked for on behalf of a request is asked for in order. -/
theorem Pending.of_asks {call : τ × Cache τ} (h : family.Pending t cache)
    (hasks : ReflTransGen family.Asks (t, cache) call) : family.Pending call.1 call.2 := by
  induction hasks with
  | refl => exact h
  | tail _ hstep ih =>
    cases hstep with
    | @parent t parent cache below before rest d hget hmem hdeclare hcarry =>
      have hsub : ∀ action ∈ before, action ∈ family.declare t := by
        intro action haction
        rw [hdeclare]
        exact List.mem_append_left _ haction
      have hparent : family.Inherits t parent := by simp [Inherits, hdeclare]
      have hgrows := carryOutWith_grows family before .empty (cache.push t)
      have hkept := ih.wellKept_carryOutWith hget
        fun other hother below hunderWay hkept => request_wellKept
          (ih.parent hmem (hsub _ hother) hunderWay hkept)
      rw [hcarry] at hgrows hkept
      exact ih.parent hmem hparent hgrows.underWay hkept

/-- A type that is answered with an error is in no cache in order. -/
theorem Pending.notMem_types (h : family.Pending t cache) {error : LoadError}
    (herror : (family.request t cache).1 = .error error) {after : Cache τ}
    (hafter : after.WellKept family) : t ∉ after.types := by
  intro ht
  obtain ⟨r, hr⟩ := Cache.mem_types_iff.mp ht
  have halone : family.build t = .ok r := hafter.sound t r hr
  have hbuild : family.buildOn cache.underWay t = .ok r :=
    buildOn_of_forall_not_reaches halone fun s hs hreach =>
      not_transGen_self_of_buildOn_eq_ok halone (TransGen.trans_right hreach (h.leads s hs))
  rw [h.agrees.answer, hbuild] at herror
  cases herror

/-- The cache after requests to an empty one, one after another. -/
def after (family : Family τ) (requests : List τ) : Cache τ :=
  requests.foldl (fun cache t => (family.request t cache).2) .empty

/-- A type may be asked for in any state that requests lead to. -/
theorem pending_after (family : Family τ) (requests : List τ) (t : τ) :
    family.Pending t (family.after requests) ∧ (family.after requests).underWay = [] := by
  have hkeeps : ∀ {cache : Cache τ}, cache.WellKept family → cache.underWay = [] →
      ∀ t, family.Pending t cache := by
    intro cache hkept hunderWay t
    exact ⟨hkept, by simp [hunderWay], by simp [hunderWay]⟩
  have hrun : ∀ cache : Cache τ, cache.WellKept family → cache.underWay = [] →
      (requests.foldl (fun cache t => (family.request t cache).2) cache).WellKept family ∧
        (requests.foldl (fun cache t => (family.request t cache).2) cache).underWay = [] := by
    induction requests with
    | nil => exact fun cache hkept hunderWay => ⟨hkept, hunderWay⟩
    | cons first rest ih =>
      intro cache hkept hunderWay
      exact ih _ (request_wellKept (hkeeps hkept hunderWay first))
        ((request_grows first cache).underWay.trans hunderWay)
  obtain ⟨hkept, hunderWay⟩ := hrun .empty .empty rfl
  exact ⟨hkeeps hkept hunderWay t, hunderWay⟩

/-- After any requests to an empty cache, no type is under way, and a request for any type leaves
the types under way and what is published as they were.  The same holds of all that is asked for on
its behalf; before and after each of these the cache is in order, and a type that one of them
answers with an error is not published in the end. -/
theorem request_after_requests (family : Family τ) (requests : List τ) (t : τ) :
    (family.after requests).underWay = [] ∧
      (family.after requests).Grows (family.request t (family.after requests)).2 ∧
      ∀ s below, ReflTransGen family.Asks (t, family.after requests) (s, below) →
        below.Grows (family.request s below).2 ∧ below.WellKept family ∧
          (family.request s below).2.WellKept family ∧
          ∀ error, (family.request s below).1 = .error error →
            s ∉ (family.request t (family.after requests)).2.types := by
  obtain ⟨hpending, hunderWay⟩ := pending_after family requests t
  refine ⟨hunderWay, request_grows t _, fun s below hasks => ?_⟩
  have hbelow : family.Pending s below := hpending.of_asks hasks
  exact ⟨request_grows s below, hbelow.kept, request_wellKept hbelow,
    fun error herror => hbelow.notMem_types herror (request_wellKept hpending)⟩

/-- A type that can be built, one below it that gives up, and one below that. -/
def faltering : Family (Fin 3) where
  all := [0, 1, 2]
  mem_all := by decide
  name t := toString t
  declare
    | 0 => [.field "id" (.ofShape (.scalar .int))]
    | 1 => [.inherit 0, .abort "not ready"]
    | 2 => [.inherit 1]

/-- When the last type is asked for again, the type below it gives up again and stays unpublished,
beside the type that was built for it the first time. -/
theorem notMem_types_faltering :
    ∃ below, ReflTransGen faltering.Asks (2, faltering.after [2]) (1, below) ∧
      (faltering.request 1 below).1 = .error (.aborted "not ready") ∧
      (faltering.after [2]).types = [0] ∧ (faltering.after [2]).underWay = [] ∧
      below.underWay = [2] ∧ (faltering.request 1 below).2.underWay = [2] ∧
      1 ∉ (faltering.request 2 (faltering.after [2])).2.types := by
  obtain ⟨hunderWay, -, hnested⟩ := request_after_requests faltering [2] 2
  have hasks : faltering.Asks (2, faltering.after [2]) (1, (faltering.after [2]).push 2) :=
    .parent rfl (by decide) (show faltering.declare 2 = [] ++ .inherit 1 :: [] from rfl) rfl
  have herror : (faltering.request 1 ((faltering.after [2]).push 2)).1 =
      .error (.aborted "not ready") := by
    rfl
  obtain ⟨hgrows, -, -, hunpublished⟩ := hnested _ _ (.single hasks)
  exact ⟨_, .single hasks, herror, by decide, hunderWay, rfl, hgrows.underWay,
    hunpublished _ herror⟩

end Family
end ModelSchema
