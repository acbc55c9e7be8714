import Mathlib.Data.List.TakeWhile
import ModelSchema.Proofs.Json.Pointer
import ModelSchema.Schema.Violation

/-!
# The place in the line of a violation

The line of a violation starts with the field.  The place follows if the field, which is read back
from the first key of the pointer, differs from the pointer without the slashes at its start.  That
tells a place below a field from the field itself, except in two cases: a key with something to
escape is not written in the pointer as it is, so its place is shown at the field itself, and
nothing is left of a pointer to empty keys, however many there are.

Main results:

- Theorem `Violation.showsPointer_eq_false_iff`: the pointers that are not shown.
- Theorem `Violation.display_of_render`: the line of a violation at given keys.
-/

namespace ModelSchema

open JsonPointer

namespace JsonPointer

/-! ## Slashes at the start -/

/-- A pointer consists of slashes if all of its keys are empty. -/
theorem forall_mem_render_iff {keys : List String} :
    (∀ c ∈ (render keys).toList, c = '/') ↔ ∀ key ∈ keys, key = "" := by
  induction keys with
  | nil => simp [render]
  | cons key rest ih =>
    have hkey : (∀ c ∈ escape key.toList, c = '/') ↔ key = "" := by
      constructor
      · intro hall
        have hnil : escape key.toList = [] :=
          List.eq_nil_iff_forall_not_mem.mpr fun c hc =>
            slash_notMem_escape key.toList (hall c hc ▸ hc)
        have hlength := length_escape key.toList
        rw [hnil, List.length_nil] at hlength
        exact String.toList_eq_nil_iff.mp (List.length_eq_zero_iff.mp (by omega))
      · rintro rfl
        simp [escape]
    rw [toList_render_cons, List.forall_mem_cons, List.forall_mem_append, hkey, ih,
      List.forall_mem_cons]
    simp

/-- Behind the slash at its start, a pointer goes on with its first key, unless that is empty. -/
theorem dropWhile_render_cons {key : String} (hkey : key ≠ "") (keys : List String) :
    (render (key :: keys)).toList.dropWhile (· == '/') =
      escape key.toList ++ (render keys).toList := by
  rw [toList_render_cons, List.dropWhile_cons_of_pos (by simp)]
  cases hescape : escape key.toList with
  | nil =>
    have hlength := length_escape key.toList
    rw [hescape, List.length_nil] at hlength
    have hnil : key.toList = [] := List.length_eq_zero_iff.mp (by omega)
    exact absurd (String.toList_eq_nil_iff.mp hnil) hkey
  | cons c rest =>
    have hslash : c ≠ '/' := by
      rintro rfl
      exact slash_notMem_escape key.toList (hescape ▸ List.mem_cons_self)
    rw [List.cons_append, List.dropWhile_cons_of_neg (by simpa using hslash)]

end JsonPointer

namespace Violation

/-! ## Lines -/

/-- The place of these keys is left out: there is only one key, which is written in a pointer as it
is, or all keys are empty. -/
def LeavesOutPlace (key : String) (keys : List String) : Prop :=
  keys = [] ∧ Plain key ∨ ∀ k ∈ key :: keys, k = ""

instance (key : String) (keys : List String) : Decidable (LeavesOutPlace key keys) := by
  unfold LeavesOutPlace
  infer_instance

/-- The first key is all of a pointer, but for the slashes at its start, if there is no other one
and it has nothing to escape, or if there are only slashes. -/
theorem withoutSlashes_render_eq_iff {key : String} {keys : List String} :
    withoutSlashes (render (key :: keys)) = key ↔ LeavesOutPlace key keys := by
  rw [withoutSlashes, String.ofList_eq, LeavesOutPlace]
  by_cases hkey : key = ""
  · subst hkey
    have hslashes : (render ("" :: keys)).toList.dropWhile (· == '/') = [] ↔
        ∀ c ∈ (render ("" :: keys)).toList, c = '/' := by
      simp [List.dropWhile_eq_nil_iff]
    rw [String.toList_empty, hslashes, forall_mem_render_iff]
    constructor
    · exact .inr
    · rintro (⟨rfl, -⟩ | hall)
      · simp
      · exact hall
  · rw [dropWhile_render_cons hkey]
    constructor
    · intro heq
      have hlength := congrArg List.length heq
      rw [List.length_append, length_escape] at hlength
      have hrest : (render keys).toList = [] := List.length_eq_zero_iff.mp (by omega)
      rw [hrest, List.append_nil, escape_eq_self_iff] at heq
      cases keys with
      | nil => exact .inl ⟨rfl, heq⟩
      | cons next more => simp [toList_render_cons] at hrest
    · rintro (⟨rfl, hplain⟩ | hall)
      · rw [escape_eq_self_iff.mpr hplain]
        simp [render]
      · exact absurd (hall key List.mem_cons_self) hkey

/-- The pointers that are not shown. -/
theorem showsPointer_eq_false_iff {key : String} {keys : List String} :
    showsPointer (render (key :: keys)) = false ↔ LeavesOutPlace key keys := by
  rw [showsPointer, firstSegment?_render, List.head?_cons, bne_eq_false_iff_eq,
    Option.some.injEq, eq_comm, withoutSlashes_render_eq_iff]

/-- The line of a violation at a place that is given by keys, of which the first is the field.  The
place is left out if the field is its only key and has nothing to escape, and if all keys are
empty. -/
theorem display_of_render {v : Violation} {key : String} {keys : List String}
    (hfield : v.field = some key) (hpointer : v.pointer = render (key :: keys)) :
    v.display = key ++
      (if LeavesOutPlace key keys then "" else " at " ++ render (key :: keys)) ++
        ": " ++ v.message ++ " [" ++ v.keyword ++ "]" := by
  have hnonempty : (render (key :: keys)).isEmpty = false := by
    rw [← Bool.not_eq_true, String.isEmpty_iff, ← String.toList_eq_nil_iff, toList_render_cons]
    simp
  rw [display, hfield, hpointer, Option.getD_some]
  by_cases hplace : LeavesOutPlace key keys
  · rw [if_pos hplace, showsPointer_eq_false_iff.mpr hplace, if_neg (by simp)]
  · have hshows : showsPointer (render (key :: keys)) = true := by
      rwa [← showsPointer_eq_false_iff, Bool.not_eq_false] at hplace
    rw [if_neg hplace, hshows, if_pos rfl, hnonempty, if_neg (by simp)]

/-- A toy of a kid is at a place below the field. -/
theorem display_toy :
    display ⟨some "kids", render ["kids", "0", "toy"], "type", "5 is not of type \"object\""⟩ =
      "kids at /kids/0/toy: 5 is not of type \"object\" [type]" := by
  have hplace : ¬ LeavesOutPlace "kids" ["0", "toy"] := by decide
  rw [display_of_render rfl rfl, if_neg hplace]
  rfl

/-- A field with a slash in its name is shown with its place, and a member without a name of a field
without a name is shown without it. -/
theorem display_slash :
    ¬ (display ⟨some "a/b", render ["a/b"], "type", "5 is not of type \"string\""⟩ =
      "a/b: 5 is not of type \"string\" [type]") ∧
    ¬ (display ⟨some "", render ["", ""], "type", "5 is not of type \"string\""⟩ =
      " at //: 5 is not of type \"string\" [type]") := by
  decide +kernel

end Violation
end ModelSchema
