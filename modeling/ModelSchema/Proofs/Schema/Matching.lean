import Mathlib.Data.Multiset.ZeroCons
import Mathlib.Data.Multiset.AddSub
import Mathlib.Data.Fintype.EquivFin
import Mathlib.Data.Fintype.Card
import ModelSchema.Schema.Compare

/-!
# Matching without order

Two multisets match under a relation if their items can be paired one by one.  Items that are
matched from first to last, each with the first partner that is left, may take a partner that a
later item was meant to have.  If the relation is symmetric and transitive, the later item can take
over the partner that was given up.

Main results:

- Theorem `exists_rel_le_of_cons`: giving an item any of its partners does not spoil a matching.
- Theorem `rel_iff_exists_equiv`: a matching of two lists is a bijection between their places.
-/

namespace ModelSchema

variable {α : Type} {R S T : α → α → Prop}

/-- Two matchings in a row match the outer multisets. -/
theorem rel_trans_of_mem {s t u : Multiset α} (h : Multiset.Rel R s t) (h' : Multiset.Rel S t u)
    (htrans : ∀ a ∈ s, ∀ b c, R a b → S b c → T a c) : Multiset.Rel T s u := by
  induction h generalizing u with
  | zero =>
    rw [Multiset.rel_zero_left] at h'
    exact Multiset.rel_zero_left.mpr h'
  | cons hfirst _ ih =>
    rw [Multiset.forall_mem_cons] at htrans
    obtain ⟨c, rest, hfirst', hrest', rfl⟩ := Multiset.rel_cons_left.mp h'
    exact .cons (htrans.1 _ _ hfirst hfirst') (ih hrest' htrans.2)

/-- A matched item can be replaced by an item that takes over its partners. -/
theorem rel_cons_of_imp {s t : Multiset α} {b b' : α} (h : Multiset.Rel R s (b ::ₘ t))
    (himp : ∀ a, R a b → R a b') : Multiset.Rel R s (b' ::ₘ t) := by
  obtain ⟨a, rest, hab, hrest, rfl⟩ := Multiset.rel_cons_right.mp h
  exact .cons (himp a hab) hrest

/-- If an item and others have partners among some items, the others still have partners among
what any partner of the item leaves. -/
theorem exists_rel_le_of_cons (hsymm : ∀ a b, R a b → R b a)
    (htrans : ∀ a b c, R a b → R b c → R a c) {a b : α} (hab : R a b) {s taken left : Multiset α}
    (hle : taken ≤ b ::ₘ left) (h : Multiset.Rel R (a ::ₘ s) taken) :
    ∃ others, others ≤ left ∧ Multiset.Rel R s others := by
  obtain ⟨b', others, hab', hothers, rfl⟩ := Multiset.rel_cons_left.mp h
  by_cases hmem : b ∈ others
  · -- The partner was taken by another item, which now gets the former partner of the first one.
    obtain ⟨rest, rfl⟩ := Multiset.exists_cons_of_mem hmem
    rw [Multiset.cons_swap, Multiset.cons_le_cons_iff] at hle
    refine ⟨b' ::ₘ rest, hle, rel_cons_of_imp hothers fun other hother => ?_⟩
    exact htrans other b b' hother (htrans b a b' (hsymm a b hab) hab')
  · have hothersle : others ≤ b ::ₘ left := (Multiset.le_cons_self others b').trans hle
    exact ⟨others, (Multiset.le_cons_of_notMem hmem).mp hothersle, hothers⟩

/-! ## Matching lists -/

section Lists

variable {β γ : Type} {R : α → β → Prop} {as : List α} {bs : List β}

/-- An item of a list has a partner in a list that matches. -/
theorem exists_partner_of_rel (h : Multiset.Rel R (as : Multiset α) (bs : Multiset β)) {a : α}
    (ha : a ∈ as) : ∃ b ∈ bs, R a b := by
  obtain ⟨b, hb, hab⟩ := Multiset.exists_mem_of_rel_of_mem h (Multiset.mem_coe.mpr ha)
  exact ⟨b, Multiset.mem_coe.mp hb, hab⟩

/-- What partners have in common, matching lists have in common up to order. -/
theorem map_perm_of_rel (h : Multiset.Rel R (as : Multiset α) (bs : Multiset β)) {f : α → γ}
    {g : β → γ} (hcommon : ∀ a b, R a b → f a = g b) : (as.map f).Perm (bs.map g) := by
  rw [← Multiset.coe_eq_coe, ← Multiset.map_coe, ← Multiset.map_coe, ← Multiset.rel_eq,
    Multiset.rel_map]
  exact h.mono fun a _ b _ hab => hcommon a b hab

end Lists

/-! ## Matching by places -/

section Places

variable {α : Type} {R : α → α → Prop} {as bs : List α}

/-- Lists match without order exactly if they are paired place by place after the right one was
reordered. -/
theorem rel_iff_exists_perm {β : Type} {R : α → β → Prop} {as : List α} {bs : List β} :
    Multiset.Rel R (as : Multiset α) (bs : Multiset β) ↔
      ∃ paired, paired.Perm bs ∧ List.Forall₂ R as paired := by
  constructor
  · intro h
    induction as generalizing bs with
    | nil =>
      rw [Multiset.coe_nil, Multiset.rel_zero_left, Multiset.coe_eq_zero] at h
      exact ⟨[], h ▸ .nil, .nil⟩
    | cons a as ih =>
      rw [← Multiset.cons_coe, Multiset.rel_cons_left] at h
      obtain ⟨b, rest, hab, hrest, hbs⟩ := h
      obtain ⟨others, rfl⟩ := Quot.exists_rep rest
      obtain ⟨paired, hperm, hall⟩ := ih hrest
      refine ⟨b :: paired, (hperm.cons b).trans ?_, .cons hab hall⟩
      exact (Multiset.coe_eq_coe.mp (hbs.trans (Multiset.cons_coe b others))).symm
  · rintro ⟨paired, hperm, hall⟩
    rw [← Multiset.coe_eq_coe.mpr hperm]
    clear hperm
    induction hall with
    | nil => exact .zero
    | cons hfirst _ ih => exact .cons hfirst ih

/-- Lists match without order exactly if a bijection between their places pairs their items. -/
theorem rel_iff_exists_equiv :
    Multiset.Rel R (as : Multiset α) (bs : Multiset α) ↔
      ∃ e : Fin as.length ≃ Fin bs.length, ∀ i, R as[i] bs[e i] := by
  have hplaces : ∀ items : List α,
      (items : Multiset α) = (Finset.univ : Finset (Fin items.length)).val.map items.get := by
    intro items
    rw [Fin.univ_val_map, List.ofFn_get]
  rw [hplaces as, hplaces bs, Multiset.rel_map]
  constructor
  · intro h
    rw [Fin.univ_def, Fin.univ_def] at h
    obtain ⟨paired, hperm, hall⟩ := rel_iff_exists_perm.mp h
    have hlength : paired.length = as.length := by simpa using hall.length_eq.symm
    have hcard : as.length = bs.length := by simpa [hlength] using hperm.length_eq
    have hnodup : paired.Nodup := hperm.nodup_iff.mpr (List.nodup_finRange _)
    let place (i : Fin as.length) : Fin bs.length := paired[i]
    have hinjective : Function.Injective place := fun i j hij => by
      simpa [Fin.ext_iff] using (hnodup.getElem_inj_iff).mp hij
    have hbijective : Function.Bijective place :=
      (Fintype.bijective_iff_injective_and_card place).mpr ⟨hinjective, by simp [hcard]⟩
    refine ⟨Equiv.ofBijective place hbijective, fun i => ?_⟩
    have hpair := (List.forall₂_iff_get.mp hall).2 i (by simp) (by simp [hlength])
    simpa [place] using hpair
  · rintro ⟨e, he⟩
    rw [← Multiset.map_univ_val_equiv e, Multiset.rel_map_right]
    exact Multiset.rel_refl_of_refl_on fun i _ => he i

end Places

/-! ## Taking the first partner -/

section TakeFirst

variable {test : α → Bool} {items left : List α}

/-- What is taken passes the test, and together with what is left it makes up the items. -/
theorem exists_of_takeFirst?_eq_some (h : takeFirst? test items = some left) :
    ∃ b, test b = true ∧ (items : Multiset α) = b ::ₘ (left : Multiset α) := by
  induction items generalizing left with
  | nil => cases h
  | cons first rest ih =>
    by_cases hfirst : test first = true
    · rw [takeFirst?, if_pos hfirst, Option.some.injEq] at h
      exact ⟨first, hfirst, by rw [← h, Multiset.cons_coe]⟩
    · rw [takeFirst?, if_neg hfirst, Option.map_eq_some_iff] at h
      obtain ⟨others, hothers, rfl⟩ := h
      obtain ⟨b, hb, hrest⟩ := ih hothers
      refine ⟨b, hb, ?_⟩
      rw [← Multiset.cons_coe, hrest, Multiset.cons_swap, Multiset.cons_coe]

/-- Nothing is taken only if no item passes the test. -/
theorem forall_of_takeFirst?_eq_none (h : takeFirst? test items = none) :
    ∀ b ∈ items, test b = false := by
  induction items with
  | nil => simp
  | cons first rest ih =>
    by_cases hfirst : test first = true
    · rw [takeFirst?, if_pos hfirst] at h
      cases h
    · rw [takeFirst?, if_neg hfirst, Option.map_eq_none_iff] at h
      rw [List.forall_mem_cons]
      exact ⟨by simpa using hfirst, ih h⟩

end TakeFirst

end ModelSchema
