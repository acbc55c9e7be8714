import Mathlib.Data.List.Chain
import Mathlib.Logic.Relation

/-!
# Walks along a relation

A walk follows a relation step by step.  If every walk from a place ends, no walk from it returns.
-/

namespace ModelSchema

variable {α : Type} {step : α → α → Prop}

/-- No walk returns to a place from which every walk ends. -/
theorem not_transGen_self_of_acc {a : α} (h : Acc (fun next current => step current next) a) :
    ¬ Relation.TransGen step a a := by
  induction h with
  | intro a _ ih =>
    intro hcycle
    -- A walk that returns to `a` can also be entered at its second place.
    obtain ⟨b, hab, hba⟩ := Relation.TransGen.head'_iff.mp hcycle
    exact ih b hab (Relation.TransGen.tail' hba hab)

/-- Every walk from a place that is reached from such a place ends, too. -/
theorem acc_of_reflTransGen {a b : α} (h : Acc (fun next current => step current next) a)
    (hab : Relation.ReflTransGen step a b) : Acc (fun next current => step current next) b := by
  induction hab with
  | refl => exact h
  | tail _ hstep ih => exact ih.inv hstep

/-! ## Lines -/

/-- Where at most one place follows on each, of two lines from a place one continues the other. -/
theorem isPrefix_or_isPrefix_of_isChain (hunique : Relator.RightUnique step) {a : α}
    {line line' : List α} (h : (a :: line).IsChain step) (h' : (a :: line').IsChain step) :
    a :: line <+: a :: line' ∨ a :: line' <+: a :: line := by
  induction line generalizing a line' with
  | nil => exact .inl (List.cons_prefix_cons.mpr ⟨rfl, List.nil_prefix⟩)
  | cons b rest ih =>
    cases line' with
    | nil => exact .inr (List.cons_prefix_cons.mpr ⟨rfl, List.nil_prefix⟩)
    | cons b' rest' =>
      obtain ⟨hstep, hrest⟩ := List.isChain_cons_cons.mp h
      obtain ⟨hstep', hrest'⟩ := List.isChain_cons_cons.mp h'
      obtain rfl := hunique hstep hstep'
      exact (ih hrest hrest').imp (fun hle => List.cons_prefix_cons.mpr ⟨rfl, hle⟩)
        (fun hle => List.cons_prefix_cons.mpr ⟨rfl, hle⟩)

/-- A line from which nothing follows continues all other lines from its first place. -/
theorem isPrefix_of_isChain_of_end (hunique : Relator.RightUnique step) {a last : α}
    {line line' : List α} (h : (a :: line).IsChain step)
    (hlast : (a :: line).getLast? = some last) (hend : ∀ next, ¬ step last next)
    (h' : (a :: line').IsChain step) : a :: line' <+: a :: line := by
  rcases isPrefix_or_isPrefix_of_isChain hunique h h' with ⟨more, hmore⟩ | hle
  · cases more with
    | nil => exact ⟨[], by rw [List.append_nil, ← hmore, List.append_nil]⟩
    | cons next rest =>
      rw [← hmore, List.isChain_append] at h'
      exact absurd (h'.2.2 last hlast next rfl) (hend next)
  · exact hle

/-- If some line from a place comes to an end, every walk from the place does. -/
theorem acc_of_isChain_of_end (hunique : Relator.RightUnique step) {a last : α} {line : List α}
    (h : (a :: line).IsChain step) (hlast : (a :: line).getLast? = some last)
    (hend : ∀ next, ¬ step last next) : Acc (fun next current => step current next) a := by
  induction line generalizing a with
  | nil =>
    obtain rfl : a = last := by simpa using hlast
    exact Acc.intro _ fun next hnext => absurd hnext (hend next)
  | cons b rest ih =>
    obtain ⟨hstep, hrest⟩ := List.isChain_cons_cons.mp h
    rw [List.getLast?_cons_cons] at hlast
    refine Acc.intro _ fun next hnext => ?_
    rw [hunique hnext hstep]
    exact ih hrest hlast

/-- A line leads from its first place to its last one. -/
theorem reflTransGen_of_isChain {first last : α} {line : List α} (h : line.IsChain step)
    (hfirst : line.head? = some first) (hlast : line.getLast? = some last) :
    Relation.ReflTransGen step first last := by
  obtain ⟨rest, rfl⟩ := List.head?_eq_some_iff.mp hfirst
  rw [List.getLast?_eq_getLast_of_ne_nil (List.cons_ne_nil _ _), Option.some.injEq] at hlast
  exact List.relationReflTransGen_of_exists_isChain_cons rest h hlast

end ModelSchema
