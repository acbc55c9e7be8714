import ModelSchema.Model.Registry
import ModelSchema.Proofs.OrderedMap

/-!
# Registries that were built

A declaration resolves exactly if no error was recorded, its own names are distinct and every own
target has a candidate.  The registry then lists each field once, with the own fields written over
the inherited ones.

Main results:

- Theorem `Declaration.checkOwn_eq_ok_iff`: what the check of the own fields accepts.
- Theorem `Declaration.build_eq_ok_iff`: when a declaration resolves, and to which registry.
- Theorem `Declaration.mem_fields_of_build`: where the fields of a built registry come from.
- Theorem `Declaration.nodup_fieldNames_of_build`: a built registry names no field twice.
-/

namespace ModelSchema

variable {τ : Type}

/-! ## Mentions -/

/-- A field of a registry has a target with a model as one of its candidates. -/
def Registry.Mentions (r : Registry τ) (field : String) (key : ModelKey τ) : Prop :=
  ∃ f target, (field, f) ∈ r.fields ∧ f.shape.target? = some target ∧
    Candidate.model key ∈ target.toList

namespace Declaration

/-! ## The check of the own fields -/

/-- The check accepts own fields whose names are distinct and new, and of which each has a
candidate if it has a target. -/
theorem checkOwn_eq_ok_iff {model : String} {seen : List String}
    {own : List (String × Field τ)} :
    checkOwn model seen own = .ok () ↔
      (∀ entry ∈ own, entry.1 ∉ seen) ∧ (own.map Prod.fst).Nodup ∧
        ∀ entry ∈ own, entry.2.shape.lacksCandidates = false := by
  induction own generalizing seen with
  | nil => simp [checkOwn]
  | cons entry rest ih =>
    obtain ⟨name, f⟩ := entry
    by_cases hseen : name ∈ seen
    · simp [checkOwn, hseen]
    cases hlacks : f.shape.lacksCandidates with
    | true => simp [checkOwn, hseen, hlacks]
    | false =>
      rw [checkOwn, if_neg hseen, if_neg (by simp [hlacks]), ih]
      simp only [List.mem_cons, forall_eq_or_imp, List.map_cons, List.nodup_cons, List.mem_map,
        not_or, hseen, hlacks, not_false_eq_true, true_and]
      constructor
      · rintro ⟨hnew, hnodup, hall⟩
        refine ⟨fun entry h => (hnew entry h).2, ⟨?_, hnodup⟩, hall⟩
        rintro ⟨entry, h, heq⟩
        exact (hnew entry h).1 heq
      · rintro ⟨hnew, ⟨hname, hnodup⟩, hall⟩
        exact ⟨fun entry h => ⟨fun heq => hname ⟨entry, h, heq⟩, hnew entry h⟩, hnodup, hall⟩

/-! ## Building -/

/-- A declaration without a recorded error resolves exactly if its own fields pass the check; the
registry has the own fields written over the inherited ones. -/
theorem build_eq_ok_iff {d : Declaration τ} {name : String} {key : ModelKey τ}
    {r : Registry τ} :
    d.build name key = .ok r ↔
      d.error = none ∧ (d.own.map Prod.fst).Nodup ∧
        (∀ entry ∈ d.own, entry.2.shape.lacksCandidates = false) ∧
        r = ⟨name, key, OrderedMap.putAll d.inherited d.own⟩ := by
  unfold build
  cases herror : d.error with
  | some error => simp
  | none =>
    cases hcheck : checkOwn name [] d.own with
    | error error =>
      have hfail : ¬ checkOwn name [] d.own = .ok () := by simp [hcheck]
      rw [checkOwn_eq_ok_iff] at hfail
      simp only [reduceCtorEq, true_and, false_iff]
      rintro ⟨hnodup, hall, -⟩
      exact hfail ⟨by simp, hnodup, hall⟩
    | ok _ =>
      have hok := checkOwn_eq_ok_iff.mp hcheck
      simp only [Except.ok.injEq, true_and, hok.2.1]
      exact ⟨fun h => ⟨hok.2.2, h.symm⟩, fun h => h.2.symm⟩

/-- The fields of the parents are listed once each. -/
theorem nodup_names_inherited (d : Declaration τ) : (OrderedMap.names d.inherited).Nodup := by
  unfold inherited
  generalize hstart : ([] : OrderedMap (Field τ)) = start
  have hnodup : (OrderedMap.names start).Nodup := by simp [← hstart]
  clear hstart
  induction d.parents generalizing start with
  | nil => exact hnodup
  | cons parent rest ih => exact ih _ (OrderedMap.nodup_names_putAll hnodup _)

/-- An inherited field is a field of some parent. -/
theorem exists_parent_of_mem_inherited {d : Declaration τ} {entry : String × Field τ}
    (h : entry ∈ d.inherited) : ∃ parent ∈ d.parents, entry ∈ parent.fields := by
  have hmerge : ∀ (parents : List (Registry τ)) (start : OrderedMap (Field τ)),
      entry ∈ parents.foldl (fun acc parent => OrderedMap.putAll acc parent.fields) start →
        entry ∈ start ∨ ∃ parent ∈ parents, entry ∈ parent.fields := by
    intro parents
    induction parents with
    | nil => exact fun start h => Or.inl h
    | cons parent rest ih =>
      intro start h
      rcases ih _ h with h | ⟨other, hother, h⟩
      · rcases OrderedMap.mem_of_mem_putAll h with h | h
        · exact Or.inl h
        · exact Or.inr ⟨parent, List.mem_cons_self, h⟩
      · exact Or.inr ⟨other, List.mem_cons_of_mem _ hother, h⟩
  rcases hmerge d.parents [] h with h | h
  · cases h
  · exact h

/-- A field of a built registry is an own field or a field of some parent. -/
theorem mem_fields_of_build {d : Declaration τ} {name : String} {key : ModelKey τ}
    {r : Registry τ} (h : d.build name key = .ok r) {entry : String × Field τ}
    (hentry : entry ∈ r.fields) :
    entry ∈ d.own ∨ ∃ parent ∈ d.parents, entry ∈ parent.fields := by
  obtain ⟨-, -, -, rfl⟩ := build_eq_ok_iff.mp h
  rcases OrderedMap.mem_of_mem_putAll hentry with h | h
  · exact Or.inr (exists_parent_of_mem_inherited h)
  · exact Or.inl h

/-- A built registry names no field twice. -/
theorem nodup_fieldNames_of_build {d : Declaration τ} {name : String} {key : ModelKey τ}
    {r : Registry τ} (h : d.build name key = .ok r) : r.fieldNames.Nodup := by
  obtain ⟨-, -, -, rfl⟩ := build_eq_ok_iff.mp h
  exact OrderedMap.nodup_names_putAll d.nodup_names_inherited d.own

end Declaration
end ModelSchema
