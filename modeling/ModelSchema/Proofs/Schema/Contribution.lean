import ModelSchema.Proofs.Schema.Draft4.Keyword

/-!
# What validators write together

Validators write one after another, so of two values under one keyword the later one stays.  The
validators that come with the program write other keywords than shapes do.  The fragment of a field
is therefore that of its shape with what the validators alone would have written behind it, and a
value has to be valid under both parts.

Main results:

- Theorem `Validator.value?_contributeAll`: under a keyword stands what was last written there.
- Theorem `Validator.contributeAll_eq_append`: the keywords of a shape stay as they are.
- Theorem `Validator.isValid_contributeAll_iff`: a shape and its validators are checked apart.
-/

namespace ModelSchema
namespace Validator

open Draft4

variable {validators : List Validator} {base : Fragment}

/-! ## Validators one after another -/

/-- Validators write all of their keywords, in order. -/
theorem contributeAll_eq_putAll (validators : List Validator) (base : Fragment) :
    contributeAll validators base = OrderedMap.putAll base (validators.flatMap keywords) :=
  List.foldl_flatMap.symm

/-- Validators write keywords of theirs and no others. -/
theorem mem_keywords_of_mem_contributeAll {member : String × Json}
    (h : member ∈ contributeAll validators []) :
    ∃ validator ∈ validators, member ∈ validator.keywords := by
  rw [contributeAll_eq_putAll] at h
  rcases OrderedMap.mem_of_mem_putAll h with hbase | hkeyword
  · cases hbase
  · exact List.mem_flatMap.mp hkeyword

/-- No keyword is written twice. -/
theorem nodup_names_contributeAll (validators : List Validator) :
    (OrderedMap.names (contributeAll validators [])).Nodup := by
  have hnil : (OrderedMap.names ([] : Fragment)).Nodup := List.nodup_nil
  rw [contributeAll_eq_putAll]
  exact OrderedMap.nodup_names_putAll hnil _

/-! ## The last one to write -/

/-- The validators that come with the program, and functions that only check. -/
def Standard : Validator → Prop
  | .custom _ keywords => keywords = []
  | _ => True

theorem BuiltIn.standard {validator : Validator} (h : validator.BuiltIn) :
    validator.Standard := by
  cases validator with
  | custom check keywords => exact h.elim
  | _ => trivial

section Written

variable {α : Type} {key : String}

/-- Under a keyword stands what was last written there, or else what stood there before. -/
theorem value?_contributeAll {written : Validator → Option α} {toJson : α → Json}
    (h : ∀ validator ∈ validators,
      OrderedMap.value? validator.keywords.reverse key = (written validator).map toJson)
    (base : Fragment) :
    OrderedMap.value? (contributeAll validators base) key =
      ((validators.filterMap written).getLast?.map toJson).or (OrderedMap.value? base key) := by
  rw [contributeAll_eq_putAll, OrderedMap.value?_putAll, OrderedMap.value?_reverse_flatMap,
    List.filterMap_congr h, ← List.map_filterMap, List.getLast?_map]

/-- A value that is always the same stands under a keyword if some validator writes it. -/
theorem value?_contributeAll_flag {isWritten : Validator → Bool} {flag : Json}
    (h : ∀ validator ∈ validators, OrderedMap.value? validator.keywords.reverse key =
      if isWritten validator then some flag else none)
    (base : Fragment) :
    OrderedMap.value? (contributeAll validators base) key =
      if validators.any isWritten then some flag else OrderedMap.value? base key := by
  have hlast : ∀ validators : List Validator,
      (validators.filterMap fun v => if isWritten v then some flag else none).getLast? =
        if validators.any isWritten then some flag else none := by
    intro validators
    induction validators using List.reverseRecOn with
    | nil => rfl
    | append_singleton before last ih =>
      rw [List.filterMap_append, List.getLast?_append, ih, List.any_append]
      cases hlast : isWritten last <;> simp [hlast]
  rw [contributeAll_eq_putAll, OrderedMap.value?_putAll, OrderedMap.value?_reverse_flatMap,
    List.filterMap_congr h, hlast]
  cases validators.any isWritten <;> simp

end Written

/-! ## Shapes and validators -/

/-- Validators write keywords that no shape has, unless a function adds its own. -/
theorem Standard.names_keywords {validator : Validator} (h : validator.Standard) :
    ∀ key ∈ OrderedMap.names validator.keywords, key ∈ validatorKeywords := by
  cases validator with
  | min bound exclusive =>
    cases exclusive <;> simp [keywords, OrderedMap.names, validatorKeywords]
  | max bound exclusive =>
    cases exclusive <;> simp [keywords, OrderedMap.names, validatorKeywords]
  | regex pattern => simp [keywords, OrderedMap.names, validatorKeywords]
  | length least most =>
    cases most <;> simp [keywords, OrderedMap.names, validatorKeywords]
  | custom check keywords =>
    cases h
    simp [keywords]

/-- All that they write is under these keywords. -/
theorem names_flatMap_keywords (hvalidators : ∀ validator ∈ validators, validator.Standard) :
    ∀ key ∈ OrderedMap.names (validators.flatMap keywords), key ∈ validatorKeywords := by
  intro key hkey
  obtain ⟨part, hpart⟩ := OrderedMap.exists_mem_of_name_mem hkey
  obtain ⟨validator, hvalidator, hkeyword⟩ := List.mem_flatMap.mp hpart
  exact (hvalidators validator hvalidator).names_keywords key (OrderedMap.name_mem_of_mem hkeyword)

theorem names_contributeAll (hvalidators : ∀ validator ∈ validators, validator.BuiltIn) :
    ∀ key ∈ OrderedMap.names (contributeAll validators []), key ∈ validatorKeywords := by
  intro key hkey
  rw [contributeAll_eq_putAll, OrderedMap.mem_names_putAll, OrderedMap.names_nil] at hkey
  refine names_flatMap_keywords (fun validator h => (hvalidators validator h).standard) key ?_
  exact hkey.resolve_left List.not_mem_nil

/-- Validators leave the keywords of a shape as they are, and write behind them. -/
theorem contributeAll_eq_append (hvalidators : ∀ validator ∈ validators, validator.BuiltIn)
    (hbase : ∀ key ∈ OrderedMap.names base, key ∈ shapeKeywords) :
    contributeAll validators base = base ++ contributeAll validators [] := by
  have hdisjoint : ∀ key ∈ validatorKeywords, key ∉ shapeKeywords := by decide
  have hnew : ∀ key ∈ OrderedMap.names (validators.flatMap keywords),
      key ∉ OrderedMap.names base := by
    intro key hkey hmem
    have hname :=
      names_flatMap_keywords (fun validator h => (hvalidators validator h).standard) key hkey
    exact hdisjoint key hname (hbase key hmem)
  rw [contributeAll_eq_putAll, contributeAll_eq_putAll, ← OrderedMap.putAll_append hnew,
    List.append_nil]

/-- What the validators that come with the program write has no references. -/
theorem referenceFree_contributeAll (hvalidators : ∀ validator ∈ validators, validator.BuiltIn) :
    ReferenceFree (.object (contributeAll validators [])) :=
  (emitted_contribute hvalidators (.schema (by simp) (by simp))).referenceFree

/-- A value is valid under the fragment of a field if it is valid under that of the shape and under
what the validators write. -/
theorem isValid_contributeAll_iff (hvalidators : ∀ validator ∈ validators, validator.BuiltIn)
    (hfree : ReferenceFree (.object base))
    (hbase : ∀ key ∈ OrderedMap.names base, key ∈ shapeKeywords) {value : Json} :
    isValid (.object (contributeAll validators base)) value = true ↔
      isValid (.object base) value = true ∧
        isValid (.object (contributeAll validators [])) value = true := by
  rw [contributeAll_eq_append hvalidators hbase]
  exact isValid_append_iff hfree (referenceFree_contributeAll hvalidators) hbase
    (names_contributeAll hvalidators)

end Validator
end ModelSchema
