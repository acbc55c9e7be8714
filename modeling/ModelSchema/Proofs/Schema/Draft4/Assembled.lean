import ModelSchema.Proofs.Schema.SelfContained

/-!
# Values under the document of a model

The document of a model asks for an object, describes its members by properties and asks for the
required ones.  What fails is a member under the property of its name, or the object that lacks a
required member.

Main results:

- Theorem `Draft4.failures_assemble_object`: what is wrong with an object.
- Theorem `Draft4.failures_assemble_of_ne_object`: what is wrong with anything else.
- Theorem `Draft4.isValid_assemble_iff`: which values conform to a model.
-/

namespace ModelSchema

variable {τ : Type}

/-- The schema of the property with a name. -/
def Json.property? (schema : Json) (name : String) : Option Json :=
  (schema.member? "properties").bind (·.member? name)

theorem Registry.property?_assemble (r : Registry τ) (properties : OrderedMap Json)
    (name : String) :
    (Json.object (r.assemble properties)).property? name = OrderedMap.value? properties name := by
  simp [Json.property?, Json.member?, assemble, OrderedMap.value?]

namespace Draft4

/-- A value is valid if no failure is found. -/
theorem isValid_iff {schema value : Json} :
    isValid schema value = true ↔ failures schema value = [] :=
  List.isEmpty_iff

/-! ## Keywords -/

/-- The failure of an object without a member that it has to have. -/
def Failure.lacking (name : String) : Failure :=
  ⟨[], "required", some name, Json.quoted name ++ " is a required property"⟩

section Keywords

variable {siblings : Json.Members} {rules : Rules} {value : Json}

theorem keywordFailures_type (type : String) :
    keywordFailures siblings rules "type" (ruleOf (.string type)) value =
      if hasType type value then [] else [.here "type" (typeMessage [type] value)] := by
  have hany : (admittedTypes (.string type)).any (hasType · value) = hasType type value :=
    Bool.or_false _
  rw [← hany]
  rfl

theorem keywordFailures_properties (properties members : Json.Members) :
    keywordFailures siblings rules "properties" (ruleOf (.object properties)) (.object members) =
      if restrictsOthers rules then []
      else propertyFailures (properties.map fun property => (property.1, failures property.2))
        members :=
  rfl

theorem keywordFailures_required (names : List String) (members : Json.Members) :
    keywordFailures siblings rules "required" (ruleOf (.array (names.map .string)))
        (.object members) =
      (names.filter fun name => !OrderedMap.has members name).map .lacking := by
  have hnames : strings (.array (names.map .string)) = names := by
    simp [strings, List.filterMap_map]
  nth_rewrite 2 [← hnames]
  rfl

/-- Properties and required members are asked of objects only. -/
theorem keywordFailures_of_ne_object {key : String} (hkey : key = "properties" ∨ key = "required")
    (rule : Rule) (hvalue : ∀ members, value ≠ .object members) :
    keywordFailures siblings rules key rule value = [] := by
  rcases hkey with rfl | rfl <;> cases value with
  | object members => exact absurd rfl (hvalue members)
  | _ => rfl

end Keywords

/-! ## Properties -/

/-- The failures under properties are those of members under the properties of their names. -/
theorem mem_propertyFailures {checks : List (String × Check)} {members : Json.Members}
    {f : Failure} :
    f ∈ propertyFailures checks members ↔
      ∃ name check value inner, (name, check) ∈ checks ∧
        OrderedMap.value? members name = some value ∧ inner ∈ check value ∧
        f = inner.under name := by
  induction checks with
  | nil => simp [propertyFailures]
  | cons first rest ih =>
    obtain ⟨name, check⟩ := first
    rw [propertyFailures, List.mem_append, ih]
    constructor
    · rintro (h | ⟨other, check', value, inner, hmem, hvalue, hinner, rfl⟩)
      · split at h
        · rename_i value hvalue
          obtain ⟨inner, hinner, rfl⟩ := List.mem_map.mp h
          exact ⟨name, check, value, inner, List.mem_cons_self, hvalue, hinner, rfl⟩
        · cases h
      · exact ⟨other, check', value, inner, List.mem_cons_of_mem _ hmem, hvalue, hinner, rfl⟩
    · rintro ⟨other, check', value, inner, hmem, hvalue, hinner, rfl⟩
      rcases List.mem_cons.mp hmem with heq | hmem
      · cases heq
        rw [hvalue]
        exact .inl (List.mem_map_of_mem hinner)
      · exact .inr ⟨other, check', value, inner, hmem, hvalue, hinner, rfl⟩

/-- Nothing fails under properties if each of them admits the member of its name. -/
theorem propertyFailures_eq_nil_iff {properties members : Json.Members} :
    propertyFailures (properties.map fun property => (property.1, failures property.2)) members =
        [] ↔
      ∀ name property, (name, property) ∈ properties →
        ∀ member, OrderedMap.value? members name = some member →
          isValid property member = true := by
  simp only [isValid_iff, List.eq_nil_iff_forall_not_mem]
  constructor
  · intro hnone name property hproperty member hmember inner hinner
    refine hnone (inner.under name) (mem_propertyFailures.mpr ?_)
    exact ⟨name, failures property, member, inner, List.mem_map_of_mem hproperty, hmember, hinner,
      rfl⟩
  · intro hvalid f hf
    obtain ⟨name, check, member, inner, hmem, hmember, hinner, rfl⟩ := mem_propertyFailures.mp hf
    obtain ⟨⟨name, property⟩, hproperty, heq⟩ := List.mem_map.mp hmem
    cases heq
    exact hvalid name property hproperty member hmember inner hinner

/-- An object has the members that it has to have if it lacks none. -/
theorem lacking_eq_nil_iff {names : List String} {members : Json.Members} :
    (names.filter fun name => !OrderedMap.has members name).map Failure.lacking = [] ↔
      ∀ name ∈ names, name ∈ OrderedMap.names members := by
  simp [OrderedMap.has_iff]

/-! ## Documents of models -/

section Assembled

variable {r : Registry τ} {properties : OrderedMap Json}

/-- What is collected from the keywords of a document. -/
theorem flatMap_assemble {β : Type} (f : String × Json → List β) :
    (r.assemble properties).flatMap f =
      f ("type", .string "object") ++ f ("properties", .object properties) ++
        if r.fields.any (·.2.required) then f ("required", .array (r.requiredNames.map .string))
        else [] := by
  rw [Registry.assemble]
  split <;> simp

/-- The document of a model says nothing of members without properties. -/
theorem restrictsOthers_assemble : restrictsOthers (rulesOf (r.assemble properties)) = false := by
  cases hany : r.fields.any (·.2.required) <;>
    simp [Registry.assemble, hany, restrictsOthers, rulesOf, OrderedMap.value?]

/-- An object fails where a member fails under the property of its name, and once for each required
member that it lacks. -/
theorem failures_assemble_object (h : ReferenceFree (.object (r.assemble properties)))
    (members : Json.Members) :
    failures (.object (r.assemble properties)) (.object members) =
      propertyFailures (properties.map fun property => (property.1, failures property.2))
          members ++
        (r.requiredNames.filter fun name => !OrderedMap.has members name).map .lacking := by
  have htype : hasType "object" (.object members) = true := rfl
  simp only [failures_object h, flatMap_assemble, keywordFailures_type, if_pos htype,
    List.nil_append, keywordFailures_properties, restrictsOthers_assemble, Bool.false_eq_true,
    if_false, keywordFailures_required]
  by_cases hany : r.fields.any (·.2.required) = true
  · rw [if_pos hany]
  · have hnil : r.requiredNames = [] := by
      rwa [← Registry.requiredNames_ne_nil_iff, not_not] at hany
    rw [if_neg hany, hnil]
    rfl

/-- A value that is no object fails only for its type. -/
theorem failures_assemble_of_ne_object (h : ReferenceFree (.object (r.assemble properties)))
    {value : Json} (hvalue : ∀ members, value ≠ .object members) :
    failures (.object (r.assemble properties)) value =
      [.here "type" (typeMessage ["object"] value)] := by
  have htype : ¬ hasType "object" value = true := by
    cases value with
    | object members => exact absurd rfl (hvalue members)
    | number n => cases n <;> simp [hasType]
    | _ => simp [hasType]
  simp only [failures_object h, flatMap_assemble, keywordFailures_type, if_neg htype,
    keywordFailures_of_ne_object (.inl rfl) _ hvalue,
    keywordFailures_of_ne_object (.inr rfl) _ hvalue, ite_self, List.append_nil]

/-- A failure of an object is that of a member, one step down, or that of a required member that
the object lacks. -/
theorem mem_failures_assemble_iff (h : ReferenceFree (.object (r.assemble properties)))
    {members : Json.Members} {f : Failure} :
    f ∈ failures (.object (r.assemble properties)) (.object members) ↔
      (∃ name property member inner, (name, property) ∈ properties ∧
        OrderedMap.value? members name = some member ∧ inner ∈ failures property member ∧
        f = inner.under name) ∨
      ∃ name ∈ r.requiredNames, name ∉ OrderedMap.names members ∧ f = .lacking name := by
  have hlacks : ∀ name, (!OrderedMap.has members name) = true ↔
      name ∉ OrderedMap.names members := by
    intro name
    rw [Bool.not_eq_true', ← Bool.not_eq_true, OrderedMap.has_iff]
  rw [failures_assemble_object h, List.mem_append, mem_propertyFailures]
  refine or_congr ?_ ?_
  · constructor
    · rintro ⟨name, check, member, inner, hmem, hmember, hinner, rfl⟩
      obtain ⟨⟨name, property⟩, hproperty, heq⟩ := List.mem_map.mp hmem
      cases heq
      exact ⟨name, property, member, inner, hproperty, hmember, hinner, rfl⟩
    · rintro ⟨name, property, member, inner, hproperty, hmember, hinner, rfl⟩
      exact ⟨name, failures property, member, inner, List.mem_map_of_mem hproperty, hmember,
        hinner, rfl⟩
  · simp only [List.mem_map, List.mem_filter, hlacks, and_assoc, eq_comm]

/-- A value conforms to a model if it is an object that has all required members, and if each
property admits the member of its name. -/
theorem isValid_assemble_iff (h : ReferenceFree (.object (r.assemble properties)))
    {value : Json} :
    isValid (.object (r.assemble properties)) value = true ↔
      ∃ members, value = .object members ∧
        (∀ name ∈ r.requiredNames, name ∈ OrderedMap.names members) ∧
        ∀ name property, (name, property) ∈ properties →
          ∀ member, OrderedMap.value? members name = some member →
            isValid property member = true := by
  by_cases hvalue : ∃ members, value = .object members
  · obtain ⟨members, rfl⟩ := hvalue
    rw [isValid_iff, failures_assemble_object h, List.append_eq_nil_iff,
      propertyFailures_eq_nil_iff, lacking_eq_nil_iff]
    constructor
    · rintro ⟨hproperties, hrequired⟩
      exact ⟨members, rfl, hrequired, hproperties⟩
    · rintro ⟨_, heq, hrequired, hproperties⟩
      cases heq
      exact ⟨hproperties, hrequired⟩
  · have hne : ∀ members, value ≠ .object members := fun members heq => hvalue ⟨members, heq⟩
    rw [isValid_iff, failures_assemble_of_ne_object h hne]
    constructor
    · intro hnil
      cases hnil
    · rintro ⟨members, heq, -⟩
      exact absurd heq (hne members)

end Assembled

end Draft4
end ModelSchema
