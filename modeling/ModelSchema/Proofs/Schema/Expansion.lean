import ModelSchema.Proofs.Schema.Document

/-!
# Expanding models into their schemas

Expanding a model follows its references, with the path that led to it in hand.  The path can only
turn a document into a refusal: whatever a model expands to below others, it expands to on its own.

Main results:

- Theorem `Scope.expand_eq_ok_iff`: one step of the expansion.
- Theorem `Scope.expand_of_subset`: a path with fewer models gives the same document.
-/

namespace ModelSchema

variable {τ : Type} [DecidableEq τ]

namespace Scope

variable {scope : Scope τ}

/-! ## One step -/

/-- A model expands unless its key is on the path; a mentioned model is resolved and then expanded
on the path that is longer by one. -/
theorem expand_eq (scope : Scope τ) (path : List (Registry τ)) (r : Registry τ) :
    scope.expand path r =
      if r.key ∈ path.map (·.key) then .error (.cyclicModel r.name (cycle path r))
      else r.document fun field key =>
        scope.resolve r.name field key >>= scope.expand (path ++ [r]) := by
  rw [expand]
  congr 2
  funext field key
  cases scope.resolve r.name field key with
  | error error => rfl
  | ok next => rfl

/-- A model with a document is not on the path, and its document follows from the models that it
mentions. -/
theorem expand_eq_ok_iff {path : List (Registry τ)} {r : Registry τ} {document : Fragment} :
    scope.expand path r = .ok document ↔
      r.key ∉ path.map (·.key) ∧
        r.document (fun field key =>
          scope.resolve r.name field key >>= scope.expand (path ++ [r])) = .ok document := by
  rw [expand_eq]
  split
  · rename_i hpath
    simp [hpath]
  · rename_i hpath
    simp [hpath]

/-- What a model expands to on a path, it expands to on every path of fewer keys. -/
theorem expand_of_subset {path : List (Registry τ)} {r : Registry τ} {document : Fragment}
    (h : scope.expand path r = .ok document) {path' : List (Registry τ)}
    (hsub : path'.map (·.key) ⊆ path.map (·.key)) : scope.expand path' r = .ok document := by
  induction path, r using expand.induct scope generalizing path' document with
  | case1 path r hpath =>
    rw [expand_eq, if_pos hpath] at h
    cases h
  | case2 path r hpath ih =>
    rw [expand_eq_ok_iff] at h ⊢
    refine ⟨fun hmem => hpath (hsub hmem), Registry.document_mono ?_ h.2⟩
    intro field key mentioned hmentioned
    obtain ⟨next, hnext, hexpand⟩ := bind_eq_ok_iff.mp hmentioned
    refine bind_eq_ok_iff.mpr ⟨next, hnext, ih field key next hnext hexpand ?_⟩
    rw [List.map_append, List.map_append]
    exact List.append_subset.mpr
      ⟨List.subset_append_of_subset_left _ hsub, List.subset_append_right _ _⟩

/-- What a model expands to below others, it expands to on its own. -/
theorem expand_nil {path : List (Registry τ)} {r : Registry τ} {document : Fragment}
    (h : scope.expand path r = .ok document) : scope.expand [] r = .ok document :=
  expand_of_subset h (List.nil_subset _)

end Scope
end ModelSchema
