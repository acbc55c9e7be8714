import Mathlib.Data.List.Forall2

/-!
# Lists of named items, and lists paired item by item

An item is looked up by its name, which is enough if the names are distinct, or by its place.  Two
lists are paired by a relation if they have the same length and the relation holds place by place.
-/

namespace ModelSchema

/-! ## Looking up by name -/

section Lookup

variable {α : Type} {name : α → String} {items : List α} {text : String}

/-- What is found under a name has that name and is listed. -/
theorem of_findNamed {a : α} (h : items.find? (name · == text) = some a) :
    a ∈ items ∧ name a = text :=
  ⟨List.mem_of_find?_eq_some h, by simpa using List.find?_some h⟩

/-- Under distinct names, every listed item is found under its name. -/
theorem findNamed_of_mem (hnodup : (items.map name).Nodup) {a : α} (ha : a ∈ items) :
    items.find? (name · == name a) = some a := by
  induction items with
  | nil => cases ha
  | cons first rest ih =>
    rw [List.map_cons, List.nodup_cons] at hnodup
    rcases List.mem_cons.mp ha with rfl | ha
    · simp
    · have hne : name first ≠ name a := by
        intro h
        exact hnodup.1 (h ▸ List.mem_map_of_mem ha)
      rw [List.find?_cons_of_neg (by simpa using hne)]
      exact ih hnodup.2 ha

/-- Nothing is found under a name exactly if no listed item has it. -/
theorem findNamed_eq_none_iff :
    items.find? (name · == text) = none ↔ text ∉ items.map name := by
  simp [List.find?_eq_none]

end Lookup

/-! ## Places -/

/-- Exactly one item passes a test if there is exactly one place with an item that does. -/
theorem length_filter_eq_one_iff {α : Type} {p : α → Bool} {items : List α} :
    (items.filter p).length = 1 ↔ ∃! i : Nat, ∃ a, items[i]? = some a ∧ p a = true := by
  induction items with
  | nil => simp [ExistsUnique]
  | cons first rest ih =>
    by_cases hfirst : p first = true
    · rw [List.filter_cons_of_pos hfirst, List.length_cons, Nat.add_eq_right,
        List.length_eq_zero_iff, List.filter_eq_nil_iff]
      constructor
      · intro hnone
        refine ⟨0, ⟨first, rfl, hfirst⟩, ?_⟩
        rintro (_ | i) ⟨a, ha, hp⟩
        · rfl
        · exact absurd hp (hnone a (List.mem_of_getElem? ha))
      · rintro ⟨i, -, hunique⟩ a ha hp
        obtain ⟨j, hj⟩ := List.getElem?_of_mem ha
        have hzero := hunique 0 ⟨first, rfl, hfirst⟩
        have hnext := hunique (j + 1) ⟨a, hj, hp⟩
        omega
    · rw [List.filter_cons_of_neg hfirst, ih]
      constructor
      · rintro ⟨i, ⟨a, ha, hp⟩, hunique⟩
        refine ⟨i + 1, ⟨a, ha, hp⟩, ?_⟩
        rintro (_ | j) ⟨b, hb, hpb⟩
        · cases hb
          exact absurd hpb hfirst
        · exact congrArg (· + 1) (hunique j ⟨b, hb, hpb⟩)
      · rintro ⟨i, ⟨a, ha, hp⟩, hunique⟩
        cases i with
        | zero =>
          cases ha
          exact absurd hp hfirst
        | succ i =>
          refine ⟨i, ⟨a, ha, hp⟩, fun j ⟨b, hb, hpb⟩ => ?_⟩
          exact Nat.succ.inj (hunique (j + 1) ⟨b, hb, hpb⟩)

/-- The first item with a property is determined. -/
theorem eq_of_first {α : Type} {p : α → Prop} {before before' after after' : List α} {a a' : α}
    (heq : before ++ a :: after = before' ++ a' :: after') (hbefore : ∀ b ∈ before, ¬ p b)
    (hbefore' : ∀ b ∈ before', ¬ p b) (ha : p a) (ha' : p a') : a = a' := by
  rcases List.append_eq_append_iff.mp heq with ⟨between, rfl, h⟩ | ⟨between, rfl, h⟩
  · cases between with
    | nil => exact (List.cons.inj h).1
    | cons first rest =>
      obtain ⟨rfl, -⟩ := List.cons.inj h
      exact absurd ha (hbefore' a (by simp))
  · cases between with
    | nil => exact (List.cons.inj h).1.symm
    | cons first rest =>
      obtain ⟨rfl, -⟩ := List.cons.inj h
      exact absurd ha' (hbefore a' (by simp))

/-- The last item with a property is determined. -/
theorem eq_of_last {α : Type} {p : α → Prop} {before before' after after' : List α} {a a' : α}
    (heq : before ++ a :: after = before' ++ a' :: after') (hafter : ∀ b ∈ after, ¬ p b)
    (hafter' : ∀ b ∈ after', ¬ p b) (ha : p a) (ha' : p a') : a = a' := by
  have hreverse := congrArg List.reverse heq
  simp only [List.reverse_append, List.reverse_cons, List.append_assoc, List.singleton_append]
    at hreverse
  exact eq_of_first hreverse (by simpa using hafter) (by simpa using hafter') ha ha'

/-! ## Pairing -/

section Pairing

variable {α β : Type} {R S : α → β → Prop} {as : List α} {bs : List β}

/-- An item of the left list has a partner. -/
theorem exists_partner_of_mem_left (h : List.Forall₂ R as bs) {a : α} (ha : a ∈ as) :
    ∃ b ∈ bs, R a b := by
  induction h with
  | nil => cases ha
  | cons hfirst _ ih =>
    rcases List.mem_cons.mp ha with rfl | ha
    · exact ⟨_, List.mem_cons_self, hfirst⟩
    · obtain ⟨b, hb, hab⟩ := ih ha
      exact ⟨b, List.mem_cons_of_mem _ hb, hab⟩

/-- An item of the right list has a partner. -/
theorem exists_partner_of_mem_right (h : List.Forall₂ R as bs) {b : β} (hb : b ∈ bs) :
    ∃ a ∈ as, R a b :=
  exists_partner_of_mem_left h.flip hb

/-- At every place there are two partners, or none. -/
theorem optionRel_getElem? (h : List.Forall₂ R as bs) (i : Nat) :
    Option.Rel R as[i]? bs[i]? := by
  induction h generalizing i with
  | nil => exact .none
  | cons hfirst _ ih =>
    cases i with
    | zero => exact .some hfirst
    | succ i => exact ih i

/-- Pairs may be replaced by pairs of the same items. -/
theorem forall₂_imp_of_mem (h : List.Forall₂ R as bs)
    (himp : ∀ a ∈ as, ∀ b ∈ bs, R a b → S a b) : List.Forall₂ S as bs := by
  induction h with
  | nil => exact List.Forall₂.nil
  | cons hfirst _ ih =>
    refine List.Forall₂.cons (himp _ List.mem_cons_self _ List.mem_cons_self hfirst) (ih ?_)
    intro a ha b hb
    exact himp a (List.mem_cons_of_mem _ ha) b (List.mem_cons_of_mem _ hb)

/-- Two pairings in a row pair the outer lists. -/
theorem forall₂_trans_of_mem {γ : Type} {T : β → γ → Prop} {U : α → γ → Prop} {cs : List γ}
    (h : List.Forall₂ R as bs) (h' : List.Forall₂ T bs cs)
    (htrans : ∀ a ∈ as, ∀ b c, R a b → T b c → U a c) : List.Forall₂ U as cs := by
  induction h generalizing cs with
  | nil =>
    cases h'
    exact List.Forall₂.nil
  | cons hfirst _ ih =>
    rw [List.forall_mem_cons] at htrans
    cases h' with
    | cons hfirst' hrest' =>
      exact List.Forall₂.cons (htrans.1 _ _ hfirst hfirst') (ih hrest' htrans.2)

/-- If every item has some partner, there is a paired list. -/
theorem exists_forall₂ (h : ∀ a ∈ as, ∃ b, R a b) : ∃ bs, List.Forall₂ R as bs := by
  induction as with
  | nil => exact ⟨[], List.Forall₂.nil⟩
  | cons a rest ih =>
    obtain ⟨b, hab⟩ := h a List.mem_cons_self
    obtain ⟨bs, hbs⟩ := ih fun a ha => h a (List.mem_cons_of_mem _ ha)
    exact ⟨b :: bs, List.Forall₂.cons hab hbs⟩

/-- A list that is computed item by item is paired with what the items yield. -/
theorem forall₂_of_mapM {f : α → Option β} (h : as.mapM f = some bs) :
    List.Forall₂ (fun a b => f a = some b) as bs := by
  induction as generalizing bs with
  | nil =>
    cases h
    exact .nil
  | cons a rest ih =>
    rw [List.mapM_cons] at h
    obtain ⟨b, hb, h⟩ := Option.bind_eq_some_iff.mp h
    obtain ⟨others, hothers, h⟩ := Option.bind_eq_some_iff.mp h
    cases h
    exact .cons hb (ih hothers)

/-- Optional items are paired if both are there and related, or both are missing. -/
theorem optionRel_iff {x : Option α} {y : Option β} :
    Option.Rel R x y ↔ x = none ∧ y = none ∨ ∃ a b, x = some a ∧ y = some b ∧ R a b := by
  cases x <;> cases y <;> simp

end Pairing

end ModelSchema
