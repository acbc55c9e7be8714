import ModelSchema.Proofs.Schema.Lengths

/-!
# Values of several candidates

A target with several candidates is a choice, which admits the values that exactly one branch
admits.  Candidates may overlap: an integer is also a number with a fraction, and a candidate may be
listed twice.  A value that two candidates admit is refused, whatever it is.

Main results:

- Theorem `Draft4.isValid_oneOf_iff`: which values a choice admits.
- Theorem `Catalog.oneOf_of_compileNamed`: the choices in the schemas of a catalog.
-/

namespace ModelSchema

variable {τ : Type}

namespace Draft4

/-! ## Choices -/

theorem choiceFailures_eq_nil_iff {count : Nat} {value : Json} :
    choiceFailures count value = [] ↔ count = 1 := by
  rw [choiceFailures]
  by_cases hone : count = 1
  · simp [hone]
  · by_cases hzero : count = 0
    · simp [hzero]
    · simp [hone, hzero]

/-- A choice admits the values that one branch admits. -/
theorem keywordFailures_oneOf {siblings : Json.Members} {rules : Rules} (branches : List Json)
    (value : Json) :
    keywordFailures siblings rules "oneOf" (ruleOf (.array branches)) value = [] ↔
      (branches.filter (isValid · value)).length = 1 := by
  have hcount : countValid (branches.map failures) value =
      (branches.filter (isValid · value)).length := by
    rw [countValid, List.filter_map, List.length_map]
    rfl
  change choiceFailures (countValid (branches.map failures) value) value = [] ↔ _
  rw [choiceFailures_eq_nil_iff, hcount]

/-- A choice admits the values that are valid at exactly one place. -/
theorem isValid_oneOf_iff {branches : List Json} (h : ReferenceFree (.array branches))
    {value : Json} :
    isValid (.object [("oneOf", .array branches)]) value = true ↔
      ∃! i : Nat, ∃ branch, branches[i]? = some branch ∧ isValid branch value = true := by
  have hfree : ReferenceFree (.object [("oneOf", .array branches)]) := by
    rw [referenceFree_object_iff, List.forall_mem_singleton]
    exact ⟨by simp, h⟩
  rw [isValid_iff, failures_object hfree, List.flatMap_singleton, keywordFailures_oneOf]
  exact length_filter_eq_one_iff

end Draft4

open Draft4

/-- The fragment of a target with several candidates admits the values that exactly one candidate
admits. -/
theorem Target.HasFragment.exists_choice {models : ModelKey τ → Fragment → Prop} {t : Target τ}
    {fragment : Fragment} (h : t.HasFragment models fragment) (hmany : t.toList.length ≠ 1)
    (hfree : ReferenceFree (.object fragment)) :
    ∃ fragments, List.Forall₂ (Candidate.HasFragment models) t.toList fragments ∧
      fragment = [("oneOf", .array (fragments.map .object))] ∧
      ∀ value, isValid (.object fragment) value = true ↔
        ∃! i : Nat, ∃ candidate, fragments[i]? = some candidate ∧
          isValid (.object candidate) value = true := by
  cases h with
  | only honly hfirst => exact absurd (by rw [honly]; rfl) hmany
  | @choice fragments _ hall =>
    have hbranches : ReferenceFree (.array (fragments.map .object)) :=
      (referenceFree_object_iff.mp hfree _ List.mem_cons_self).2
    refine ⟨fragments, hall, rfl, fun value => ?_⟩
    rw [isValid_oneOf_iff hbranches]
    simp only [List.getElem?_map, Option.map_eq_some_iff, exists_exists_and_eq_and]

namespace Catalog

variable [DecidableEq τ] {c : Catalog τ} {family : Family τ}

/-- The property of a field in the schema of a model of a catalog. -/
theorem exists_property?_of_compileNamed {m : Manifest} (hc : ofManifest m = .ok c)
    {name : String} {schema : Json}
    (hcompile : Scope.compileNamed ⟨family, some c⟩ name = .ok schema) {r : Registry τ}
    (hr : c.get? name = some r) {field : String} {f : Field τ} (hf : (field, f) ∈ r.fields) :
    ∃ fragment, schema.property? field = some (.object fragment) ∧
      f.HasFragment (c.Compiled family) fragment := by
  obtain ⟨r', properties, hr', rfl, hnodup, hproperties, -⟩ :=
    hasProperties_of_compileNamed hc hcompile
  obtain rfl : r = r' := by rwa [hr, Option.some.injEq] at hr'
  rw [Registry.fieldNames, ← hproperties.names_eq] at hnodup
  obtain ⟨⟨_, property⟩, hmem, rfl, fragment, rfl, hfragment⟩ :=
    exists_partner_of_mem_left hproperties hf
  refine ⟨fragment, ?_, hfragment⟩
  rw [Registry.property?_assemble]
  exact (OrderedMap.value?_eq_some_iff hnodup).mpr hmem

/-- A field of a compiled model whose target has several candidates has a choice as its fragment if
it is embedded, and as the fragment of its items if it is a list.  The choice admits the values that
exactly one candidate, compiled on its own, admits; candidates count by their places.  An embedded
value has to conform to what validators write besides, and an array conforms if its items do. -/
theorem oneOf_of_compileNamed {m : Manifest} (hc : ofManifest m = .ok c) {name : String}
    {schema : Json} (hcompile : Scope.compileNamed ⟨family, some c⟩ name = .ok schema)
    {r : Registry τ} (hr : c.get? name = some r) {field : String} {f : Field τ}
    (hf : (field, f) ∈ r.fields) {t : Target τ} (ht : f.shape.target? = some t)
    (hmany : 2 ≤ t.toList.length) :
    ∃ property target fragments, schema.property? field = some property ∧
      List.Forall₂ (Candidate.HasFragment (c.Compiled family)) t.toList fragments ∧
      target = [("oneOf", .array (fragments.map .object))] ∧
      (f.shape = .embedded t →
        property = .object (Validator.contributeAll f.validators target) ∧
          ∀ value, isValid property value = true ↔ isValid (.object target) value = true ∧
            isValid (.object (Validator.contributeAll f.validators [])) value = true) ∧
      (f.shape = .list t → property.member? "items" = some (.object target) ∧
        ∀ values, isValid property (.array values) = true ↔
          ∀ value ∈ values, isValid (.object target) value = true) ∧
      ∀ value, isValid (.object target) value = true ↔
        ∃! i : Nat, ∃ candidate, fragments[i]? = some candidate ∧
          isValid (.object candidate) value = true := by
  obtain ⟨fragment, hproperty, base, hbase, rfl⟩ :=
    exists_property?_of_compileNamed hc hcompile hr hf
  have hbuiltIn : ∀ validator ∈ f.validators, validator.BuiltIn := by
    intro validator hvalidator
    obtain ⟨rule, hrule⟩ := exists_rule_of_mem_validators hc hr hf hvalidator
    exact Rule.builtIn_of_build hrule
  have hmodels : ∀ key document, c.Compiled family key document →
      ReferenceFree (.object document) :=
    fun key document => Compiled.referenceFree hc
  have hne : t.toList.length ≠ 1 := by omega
  cases hshape : f.shape with
  | scalar kind =>
    rw [hshape] at ht
    cases ht
  | embedded t' =>
    rw [hshape] at ht hbase
    cases ht
    cases hbase with
    | embedded htarget =>
      have hfree := htarget.referenceFree hmodels
      obtain ⟨fragments, hall, rfl, hchoice⟩ := htarget.exists_choice hne hfree
      refine ⟨_, _, fragments, hproperty, hall, rfl, fun _ => ⟨rfl, fun value => ?_⟩, ?_, hchoice⟩
      · exact Validator.isValid_contributeAll_iff hbuiltIn hfree
          (by simp [OrderedMap.names, shapeKeywords])
      · intro heq
        cases heq
  | list t' =>
    rw [hshape] at ht hbase
    cases ht
    cases hbase with
    | @list _ target htarget =>
      have hfree := htarget.referenceFree hmodels
      obtain ⟨fragments, hall, htargeteq, hchoice⟩ := htarget.exists_choice hne hfree
      refine ⟨_, target, fragments, hproperty, hall, htargeteq, ?_, fun _ => ⟨?_, fun values => ?_⟩,
        hchoice⟩
      · intro heq
        cases heq
      · have hwritten :=
          Validator.contributeAll_eq_append hbuiltIn (Validator.names_list target)
        rw [Validator.contributeAll] at hwritten
        rw [hwritten, Json.member?, OrderedMap.value?_append]
        rfl
      · exact Validator.isValid_contributeAll_list_iff hbuiltIn hfree

/-- A reading has numbers, with or without a fraction, and a text or a number as its label. -/
def readings : Manifest :=
  ⟨[⟨"reading", none, [⟨"values", "list", false, some (.many ["int", "float"]), []⟩,
    ⟨"label", "embedded", false, some (.many ["string", "int"]), []⟩]⟩]⟩

/-- The only model of readings. -/
def readingsCatalog : Catalog Empty :=
  ⟨[⟨"reading", .named "reading",
    [("values", ⟨.list (.candidates [.primitive .int, .primitive .float]), false, []⟩),
      ("label", ⟨.embedded (.candidates [.primitive .string, .primitive .int]), false, []⟩)]⟩]⟩

/-- The schema of a reading. -/
def readingSchema : Json :=
  .object [("type", .string "object"),
    ("properties", .object [
      ("values", .object [("type", .string "array"),
        ("items", .object [("oneOf", .array
          [.object [("type", .string "integer")], .object [("type", .string "number")]])])]),
      ("label", .object [("oneOf", .array
        [.object [("type", .string "string")], .object [("type", .string "integer")]])])])]

theorem ofManifest_readings : ofManifest readings = .ok readingsCatalog := by
  cbv

theorem compileNamed_reading :
    Scope.compileNamed ⟨.none, some readingsCatalog⟩ "reading" = .ok readingSchema := by
  cbv

/-- A text is no integer, so it may be a label. -/
theorem isValid_label :
    ∃ property, readingSchema.property? "label" = some property ∧
      isValid property (.string "room") = true := by
  obtain ⟨property, target, fragments, hproperty, hall, -, hembedded, -, hchoice⟩ :=
    oneOf_of_compileNamed ofManifest_readings compileNamed_reading rfl
      (List.mem_cons_of_mem _ List.mem_cons_self) rfl (by decide)
  obtain ⟨-, hlabel⟩ := hembedded rfl
  refine ⟨property, hproperty, (hlabel _).mpr ⟨(hchoice _).mpr ?_, rfl⟩⟩
  -- The candidates have the fragments of texts and of integers.
  rcases hall with - | ⟨⟨⟩, - | ⟨⟨⟩, ⟨⟩⟩⟩
  refine ⟨0, ⟨_, rfl, rfl⟩, ?_⟩
  rintro (_ | _ | i) ⟨candidate, hcandidate, hvalid⟩
  · rfl
  · cases hcandidate
    exact absurd hvalid (by decide +kernel)
  · cases hcandidate

/-- A five is an integer and a number with a fraction, so it is refused as a value. -/
theorem not_isValid_value :
    ∃ property items, ofManifest readings = .ok readingsCatalog ∧
      Scope.compileNamed ⟨.none, some readingsCatalog⟩ "reading" = .ok readingSchema ∧
      readingSchema.property? "values" = some property ∧
      property.member? "items" = some (.object items) ∧
      ¬ (isValid (.object items) (.int 5) = true ↔
        ∃ candidate ∈ [Candidate.primitive ScalarKind.int, .primitive .float], ∃ fragment,
          candidate.HasFragment (readingsCatalog.Compiled .none) fragment ∧
            isValid (.object fragment) (.int 5) = true) := by
  have hrefused : isValid (.object [("oneOf", .array
      [.object [("type", .string "integer")], .object [("type", .string "number")]])])
      (.int 5) = false := by
    decide +kernel
  refine ⟨_, _, ofManifest_readings, compileNamed_reading, rfl, rfl, fun h => ?_⟩
  have hinteger : isValid (.object ScalarKind.int.fragment) (.int 5) = true := by
    decide +kernel
  have hadmitted := h.mpr ⟨_, List.mem_cons_self, _, .primitive .int, hinteger⟩
  rw [hrefused] at hadmitted
  cases hadmitted

end Catalog
end ModelSchema
