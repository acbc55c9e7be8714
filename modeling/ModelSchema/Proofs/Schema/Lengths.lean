import ModelSchema.Proofs.Schema.Contribution

/-!
# Lengths

A length is checked of strings, whose characters count, and of arrays, whose items count.  It is
written under keywords for strings.  Of a string, the check and the keywords say the same; of an
array, the keywords say nothing, so the schema of a list admits all arrays of admitted items.

Main results:

- Theorem `Validator.isValid_contributeAll_string`: strings that pass the checks conform.
- Theorem `Validator.isValid_contributeAll_array`: no validator restricts arrays.
- Theorem `Field.length_of_string_and_list`: a length at a field of strings, and at a list.
-/

namespace ModelSchema

namespace Draft4

/-! ## Keywords -/

section Keywords

variable {siblings : Json.Members} {rules : Rules}

/-- A failure that is found unless a condition holds. -/
theorem ite_eq_nil_iff {holds : Prop} [Decidable holds] {f : Failure} :
    (if holds then [] else [f]) = [] ↔ holds := by
  by_cases h : holds
  · simp [h]
  · simp [h]

theorem keywordFailures_minLength (least : Nat) (s : String) :
    keywordFailures siblings rules "minLength" (ruleOf (.int least)) (.string s) = [] ↔
      least ≤ s.length := by
  change (if (least : Int) ≤ s.length then [] else [_]) = [] ↔ _
  exact ite_eq_nil_iff.trans Int.ofNat_le

theorem keywordFailures_maxLength (most : Nat) (s : String) :
    keywordFailures siblings rules "maxLength" (ruleOf (.int most)) (.string s) = [] ↔
      s.length ≤ most := by
  change (if (s.length : Int) ≤ most then [] else [_]) = [] ↔ _
  exact ite_eq_nil_iff.trans Int.ofNat_le

/-- The keywords of validators bind numbers and strings only. -/
theorem keywordFailures_array {key : String} (hkey : key ∈ validatorKeywords) (rule : Rule)
    (values : List Json) :
    keywordFailures siblings rules key rule (.array values) = [] := by
  obtain ⟨part, check, named, listed⟩ := rule
  simp only [validatorKeywords, List.mem_cons, List.not_mem_nil, or_false] at hkey
  rcases hkey with rfl | rfl | rfl | rfl | rfl | rfl | rfl
  all_goals
    cases part with
    | number n => cases n <;> rfl
    | _ => rfl

/-- One schema for all items is that of each item. -/
theorem itemFailures_eq_nil_iff {check : Check} {i : Nat} {values : List Json} :
    itemFailures check i values = [] ↔ ∀ value ∈ values, check value = [] := by
  induction values generalizing i with
  | nil => simp [itemFailures]
  | cons value rest ih =>
    rw [itemFailures, List.append_eq_nil_iff, List.map_eq_nil_iff, ih, List.forall_mem_cons]

/-- A schema for items admits the arrays of admitted items. -/
theorem keywordFailures_items (items : Json.Members) (values : List Json) :
    keywordFailures siblings rules "items" (ruleOf (.object items)) (.array values) = [] ↔
      ∀ value ∈ values, isValid (.object items) value = true := by
  have hitems : keywordFailures siblings rules "items" (ruleOf (.object items)) (.array values) =
      itemFailures (failures (.object items)) 0 values :=
    List.append_nil _
  rw [hitems, itemFailures_eq_nil_iff]
  simp only [isValid_iff]

/-- An array conforms to the shape of a list if its items conform to the target. -/
theorem isValid_list_iff {items : Fragment} (h : ReferenceFree (.object items))
    {values : List Json} :
    isValid (.object [("type", .string "array"), ("items", .object items)]) (.array values) =
        true ↔
      ∀ value ∈ values, isValid (.object items) value = true := by
  have htype : hasType "array" (.array values) = true := rfl
  rw [isValid_iff, failures_object (referenceFree_list h), List.flatMap_cons,
    List.flatMap_singleton, keywordFailures_type, if_pos htype, List.nil_append,
    keywordFailures_items]

end Keywords

end Draft4

/-! ## Validators -/

namespace Validator

open Draft4

variable {least : Nat} {most : Option Nat} {validators : List Validator}

/-- Bounds and lengths, the validators that compare with numbers. -/
def Measures : Validator → Prop
  | .min _ _ => True
  | .max _ _ => True
  | .length _ _ => True
  | _ => False

theorem Measures.builtIn {validator : Validator} (h : validator.Measures) :
    validator.BuiltIn := by
  cases validator with
  | custom check keywords => exact h.elim
  | _ => trivial

theorem checkLength_eq_none_iff {n : Nat} :
    check.checkLength least most n = none ↔ least ≤ n ∧ ∀ m ∈ most, n ≤ m := by
  cases most with
  | none => simp [check.checkLength]
  | some m => simp [check.checkLength]

/-- A string passes the check of a length exactly if it fails none of its keywords. -/
theorem check_length_string_iff {siblings : Json.Members} {rules : Rules} {s : String} :
    (length least most).check (.string s) = none ↔
      ∀ key part, (key, part) ∈ (length least most).keywords →
        keywordFailures siblings rules key (ruleOf part) (.string s) = [] := by
  rw [check, checkLength_eq_none_iff]
  cases most with
  | none =>
    simp only [keywords, List.mem_singleton, Prod.mk.injEq]
    constructor
    · rintro ⟨hleast, -⟩ key part ⟨rfl, rfl⟩
      exact (keywordFailures_minLength least s).mpr hleast
    · intro hall
      exact ⟨(keywordFailures_minLength least s).mp (hall _ _ ⟨rfl, rfl⟩), by simp⟩
  | some m =>
    simp only [keywords, List.mem_cons, List.not_mem_nil, or_false, Prod.mk.injEq]
    constructor
    · rintro ⟨hleast, hmost⟩ key part (⟨rfl, rfl⟩ | ⟨rfl, rfl⟩)
      · exact (keywordFailures_minLength least s).mpr hleast
      · exact (keywordFailures_maxLength m s).mpr (hmost m rfl)
    · intro hall
      refine ⟨(keywordFailures_minLength least s).mp (hall _ _ (.inl ⟨rfl, rfl⟩)), ?_⟩
      rintro _ ⟨⟩
      exact (keywordFailures_maxLength m s).mp (hall _ _ (.inr ⟨rfl, rfl⟩))

/-- A string that passes the checks conforms to what the validators write together, though of
several lengths only the last one written is left. -/
theorem isValid_contributeAll_string (hvalidators : ∀ validator ∈ validators, validator.Measures)
    {s : String} (hchecks : ∀ validator ∈ validators, validator.check (.string s) = none) :
    isValid (.object (contributeAll validators [])) (.string s) = true := by
  have hbuiltIn : ∀ validator ∈ validators, validator.BuiltIn :=
    fun validator h => (hvalidators validator h).builtIn
  rw [isValid_object_iff (referenceFree_contributeAll hbuiltIn)]
  intro key part hmember
  obtain ⟨validator, hvalidator, hkeyword⟩ := mem_keywords_of_mem_contributeAll hmember
  have hmeasures := hvalidators validator hvalidator
  have hcheck := hchecks validator hvalidator
  cases validator with
  | min bound exclusive => cases hcheck
  | max bound exclusive => cases hcheck
  | regex pattern => exact hmeasures.elim
  | length least most => exact check_length_string_iff.mp hcheck key part hkeyword
  | custom check keywords => exact hmeasures.elim

/-- What validators write does not restrict arrays. -/
theorem isValid_contributeAll_array (hvalidators : ∀ validator ∈ validators, validator.BuiltIn)
    (values : List Json) :
    isValid (.object (contributeAll validators [])) (.array values) = true := by
  rw [isValid_object_iff (referenceFree_contributeAll hvalidators)]
  intro key part hmember
  have hkey := names_contributeAll hvalidators key (OrderedMap.name_mem_of_mem hmember)
  exact keywordFailures_array hkey (ruleOf part) values

/-- The keywords of a list are those of a shape. -/
theorem names_list (items : Fragment) :
    ∀ key ∈ OrderedMap.names [("type", Json.string "array"), ("items", Json.object items)],
      key ∈ shapeKeywords := by
  simp [OrderedMap.names, shapeKeywords]

/-- Whatever validators a list has, an array conforms if its items do. -/
theorem isValid_contributeAll_list_iff
    (hvalidators : ∀ validator ∈ validators, validator.BuiltIn) {items : Fragment}
    (h : ReferenceFree (.object items)) {values : List Json} :
    isValid (.object (contributeAll validators
        [("type", .string "array"), ("items", .object items)])) (.array values) = true ↔
      ∀ value ∈ values, isValid (.object items) value = true := by
  rw [isValid_contributeAll_iff hvalidators (referenceFree_list h) (names_list items),
    isValid_list_iff h]
  exact and_iff_left (isValid_contributeAll_array hvalidators values)

end Validator

/-! ## Fields -/

section Fields

open Draft4

variable {τ : Type}

/-- The fragments of kinds have keywords of shapes. -/
theorem ScalarKind.names_fragment (kind : ScalarKind) :
    ∀ key ∈ OrderedMap.names kind.fragment, key ∈ shapeKeywords := by
  cases kind <;> decide

/-- A target whose candidates are scalar kinds has a fragment, which refers to nothing. -/
theorem Target.exists_fragment_of_primitive (model : ModelKey τ → Except SchemaError Fragment)
    {t : Target τ} (h : ∀ candidate ∈ t.toList, ∃ kind, candidate = .primitive kind) :
    ∃ fragment, t.fragment model = .ok fragment ∧ ReferenceFree (.object fragment) := by
  have hnone : ∀ key, Candidate.model key ∉ t.toList := by
    intro key hkey
    obtain ⟨kind, heq⟩ := h _ hkey
    cases heq
  cases hfragment : t.fragment model with
  | error error =>
    obtain ⟨key, hkey, -⟩ := Target.fragment_eq_error hfragment
    exact absurd hkey (hnone key)
  | ok fragment =>
    have hscalar : t.HasFragment (fun _ _ => False) fragment :=
      (Target.fragment_eq_ok_iff.mp hfragment).mono fun key _ hkey => absurd hkey (hnone key)
    exact ⟨fragment, rfl, hscalar.referenceFree fun _ _ hfalse => hfalse.elim⟩

/-- A length at a field of strings is checked as it is written: a string passes the check exactly
if it conforms.  At a list of scalars the check counts the items, but the schema admits arrays of
admitted items whatever their length. -/
theorem Field.length_of_string_and_list {least : Nat} {most : Option Nat} {validator : Validator}
    (h : Validator.lengthBetween least most = .ok validator)
    (model : ModelKey τ → Except SchemaError Fragment) (required : Bool) :
    (∃ fragment, Field.fragment model ⟨.scalar .string, required, [validator]⟩ = .ok fragment ∧
      ∀ s, validator.check (.string s) = none ↔
        isValid (.object fragment) (.string s) = true) ∧
    ∀ t : Target τ, (∀ candidate ∈ t.toList, ∃ kind, candidate = .primitive kind) →
      ∃ items fragment, t.fragment model = .ok items ∧
        Field.fragment model ⟨.list t, required, [validator]⟩ = .ok fragment ∧
        ∀ values, (validator.check (.array values) = none ↔
            least ≤ values.length ∧ ∀ m ∈ most, values.length ≤ m) ∧
          (isValid (.object fragment) (.array values) = true ↔
            ∀ value ∈ values, isValid (.object items) value = true) := by
  obtain rfl := Validator.eq_length_of_lengthBetween h
  have hbuiltIn : ∀ validator ∈ [Validator.length least most], validator.BuiltIn := by
    intro validator hvalidator
    obtain rfl := List.mem_singleton.mp hvalidator
    trivial
  constructor
  · refine ⟨_, rfl, fun s => ?_⟩
    have htype : isValid (.object ScalarKind.string.fragment) (.string s) = true := rfl
    have hfree := (hbuiltIn _ List.mem_cons_self).referenceFree_keywords
    have hwritten : Validator.contributeAll [.length least most] [] =
        (Validator.length least most).keywords := by
      cases most <;> rfl
    rw [Validator.isValid_contributeAll_iff hbuiltIn ScalarKind.string.referenceFree_fragment
        ScalarKind.string.names_fragment, hwritten, isValid_object_iff hfree,
      Validator.check_length_string_iff]
    exact (and_iff_right htype).symm
  · intro t hscalars
    obtain ⟨items, hitems, hfree⟩ := Target.exists_fragment_of_primitive model hscalars
    have hshape : (Shape.list t).fragment model =
        .ok [("type", .string "array"), ("items", .object items)] := by
      rw [Shape.fragment, hitems]
      rfl
    refine ⟨items, _, hitems, by rw [Field.fragment, hshape]; rfl, fun values => ⟨?_, ?_⟩⟩
    · exact Validator.checkLength_eq_none_iff
    · exact Validator.isValid_contributeAll_list_iff hbuiltIn hfree

/-- Two letters conform to a length of two or three, and so does a list of one letter. -/
theorem Field.length_two_or_three :
    Validator.lengthBetween 2 (some 3) = .ok (.length 2 (some 3)) ∧
      (∃ fragment, Field.fragment (fun _ : ModelKey Empty => .error (.unknownModel ""))
          ⟨.scalar .string, true, [.length 2 (some 3)]⟩ = .ok fragment ∧
        isValid (.object fragment) (.string "żó") = true) ∧
      ∃ fragment, Field.fragment (fun _ : ModelKey Empty => .error (.unknownModel ""))
          ⟨.list (.single (.primitive .string)), true, [.length 2 (some 3)]⟩ = .ok fragment ∧
        isValid (.object fragment) (.array [.string "ż"]) = true := by
  obtain ⟨⟨fragment, hfragment, hstring⟩, hlist⟩ := Field.length_of_string_and_list
    (show Validator.lengthBetween 2 (some 3) = .ok (.length 2 (some 3)) from rfl)
    (fun _ : ModelKey Empty => .error (.unknownModel "")) true
  refine ⟨rfl, ⟨fragment, hfragment, (hstring "żó").mp (by decide)⟩, ?_⟩
  obtain ⟨items, fragment, hitems, hfragment, hvalues⟩ :=
    hlist (.single (.primitive .string)) fun candidate hcandidate =>
      ⟨.string, List.mem_singleton.mp hcandidate⟩
  cases hitems
  refine ⟨fragment, hfragment, (hvalues [.string "ż"]).2.mpr ?_⟩
  rw [List.forall_mem_singleton]
  rfl

/-- A list of strings that is to have an item may be empty. -/
theorem Field.length_of_empty_list :
    ∃ fragment, Field.fragment (fun _ : ModelKey Empty => .error (.unknownModel ""))
        ⟨.list (.single (.primitive .string)), false, [.length 1 none]⟩ = .ok fragment ∧
      Validator.lengthBetween 1 none = .ok (.length 1 none) ∧
      ¬ ((Validator.length 1 none).check (.array []) = none ↔
        isValid (.object fragment) (.array []) = true) := by
  refine ⟨_, rfl, rfl, fun h => ?_⟩
  have hrejected : (Validator.length 1 none).check (.array []) ≠ none := by decide
  exact hrejected (h.mpr rfl)

end Fields
end ModelSchema
