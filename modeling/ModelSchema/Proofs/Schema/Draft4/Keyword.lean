import ModelSchema.Proofs.Schema.Draft4.Assembled

/-!
# Keywords that do not look at each other

Few keywords look at other keywords beside them: a bound looks for the keyword that excludes it, and
what is said of further members and items depends on what is said of the others.  The keywords of
shapes and those that validators write are apart in this sense, so a value is valid under both
together if it is valid under each.

Main results:

- Theorem `Draft4.isValid_object_iff`: a value is valid if it fails no keyword.
- Theorem `Draft4.keywordFailures_congr`: what a keyword looks at.
- Theorem `Draft4.isValid_append_iff`: keywords of a shape, and after them those of validators.
-/

namespace ModelSchema
namespace Draft4

/-- A value is valid if it fails no keyword. -/
theorem isValid_object_iff {members : Json.Members} (h : ReferenceFree (.object members))
    {value : Json} :
    isValid (.object members) value = true ↔ ∀ key part, (key, part) ∈ members →
      keywordFailures members (rulesOf members) key (ruleOf part) value = [] := by
  rw [isValid_iff, failures_object h, List.flatMap_eq_nil_iff]
  exact ⟨fun hall key part hmem => hall (key, part) hmem, fun hall member hmem => hall _ _ hmem⟩

section Congruence

variable {siblings siblings' : Json.Members} {rules rules' : Rules} {key : String} {rule : Rule}
  {value : Json}

/-- Of the keywords without schemas, only bounds look at others. -/
theorem plainFailures_congr
    (hmin : key = "minimum" → isExclusive siblings "exclusiveMinimum" =
      isExclusive siblings' "exclusiveMinimum")
    (hmax : key = "maximum" → isExclusive siblings "exclusiveMaximum" =
      isExclusive siblings' "exclusiveMaximum") (rule : Json) :
    plainFailures siblings key rule value = plainFailures siblings' key rule value := by
  unfold plainFailures
  split
  case h_4 => rw [hmin rfl]
  case h_5 => rw [hmax rfl]
  all_goals rfl

/-- Apart from what is said of further members and items, keywords look only at whether there is
something to say of further members. -/
theorem keywordFailures_congr (hmembers : key ≠ "additionalProperties")
    (hitems : key ≠ "additionalItems") (hothers : restrictsOthers rules = restrictsOthers rules')
    (hmin : key = "minimum" → isExclusive siblings "exclusiveMinimum" =
      isExclusive siblings' "exclusiveMinimum")
    (hmax : key = "maximum" → isExclusive siblings "exclusiveMaximum" =
      isExclusive siblings' "exclusiveMaximum") :
    keywordFailures siblings rules key rule value =
      keywordFailures siblings' rules' key rule value := by
  unfold keywordFailures
  split
  case h_1 => rw [hothers]
  case h_2 => rw [hothers]
  case h_3 => exact absurd rfl hmembers
  case h_6 => exact absurd rfl hitems
  case h_11 => exact plainFailures_congr hmin hmax _
  all_goals rfl

end Congruence

/-! ## Shapes and validators -/

/-- The keywords of the fragments of shapes. -/
def shapeKeywords : List String := ["type", "format", "properties", "required", "items", "oneOf"]

/-- The keywords that validators write. -/
def validatorKeywords : List String :=
  ["minimum", "exclusiveMinimum", "maximum", "exclusiveMaximum", "pattern", "minLength",
    "maxLength"]

/-- A schema without the keyword does not restrict further members. -/
theorem restrictsOthers_of_notMem {members : Json.Members}
    (h : "additionalProperties" ∉ OrderedMap.names members) :
    restrictsOthers (rulesOf members) = false := by
  have hnames : OrderedMap.names (rulesOf members) = OrderedMap.names members := by
    simp [rulesOf, OrderedMap.names]
  rw [← hnames, ← OrderedMap.value?_eq_none_iff] at h
  simp [restrictsOthers, h]

/-- What stands before a keyword that is new makes no difference to whether a bound is excluded. -/
theorem isExclusive_append {base written : Json.Members} {key : String}
    (h : key ∉ OrderedMap.names base) :
    isExclusive (base ++ written) key = isExclusive written key := by
  rw [← OrderedMap.value?_eq_none_iff] at h
  rw [isExclusive, isExclusive, OrderedMap.value?_append, h, Option.none_or]

/-- Under the keywords of a shape and those of validators, a value fails what it fails under the
ones and what it fails under the others. -/
theorem failures_append {base written : Json.Members}
    (hbase : ReferenceFree (.object base)) (hwritten : ReferenceFree (.object written))
    (hshape : ∀ key ∈ OrderedMap.names base, key ∈ shapeKeywords)
    (hvalidator : ∀ key ∈ OrderedMap.names written, key ∈ validatorKeywords) (value : Json) :
    failures (.object (base ++ written)) value =
      failures (.object base) value ++ failures (.object written) value := by
  have hapart : ∀ key ∈ validatorKeywords, key ∉ OrderedMap.names base := by
    have hdisjoint : ∀ key ∈ validatorKeywords, key ∉ shapeKeywords := by decide
    exact fun key hkey hmem => hdisjoint key hkey (hshape key hmem)
  have hothers : ∀ members : Json.Members, (∀ key ∈ OrderedMap.names members,
      key ∈ shapeKeywords ∨ key ∈ validatorKeywords) →
        restrictsOthers (rulesOf members) = false := by
    intro members hmembers
    refine restrictsOthers_of_notMem fun hmem => ?_
    exact absurd (hmembers _ hmem) (by decide)
  have hfree : ReferenceFree (.object (base ++ written)) := by
    rw [referenceFree_object_iff] at hbase hwritten ⊢
    rw [List.forall_mem_append]
    exact ⟨hbase, hwritten⟩
  have hboth : restrictsOthers (rulesOf (base ++ written)) = false := by
    refine hothers _ fun key hkey => ?_
    rw [OrderedMap.names, List.map_append, List.mem_append] at hkey
    exact hkey.imp (hshape key) (hvalidator key)
  rw [failures_object hfree, failures_object hbase, failures_object hwritten, List.flatMap_append]
  congr 1
  · refine List.flatMap_congr fun member hmember => ?_
    have hkey := hshape member.1 (OrderedMap.name_mem_of_mem hmember)
    refine keywordFailures_congr ?_ ?_
      (hboth.trans (hothers _ fun key h => .inl (hshape key h)).symm) ?_ ?_
    all_goals
      intro heq
      exact absurd hkey (by rw [heq]; decide)
  · refine List.flatMap_congr fun member hmember => ?_
    have hkey := hvalidator member.1 (OrderedMap.name_mem_of_mem hmember)
    refine keywordFailures_congr ?_ ?_
      (hboth.trans (hothers _ fun key h => .inr (hvalidator key h)).symm) ?_ ?_
    · intro heq
      exact absurd hkey (by rw [heq]; decide)
    · intro heq
      exact absurd hkey (by rw [heq]; decide)
    · exact fun _ => isExclusive_append (hapart _ (by decide))
    · exact fun _ => isExclusive_append (hapart _ (by decide))

/-- A value is valid under both together if it is valid under each. -/
theorem isValid_append_iff {base written : Json.Members}
    (hbase : ReferenceFree (.object base)) (hwritten : ReferenceFree (.object written))
    (hshape : ∀ key ∈ OrderedMap.names base, key ∈ shapeKeywords)
    (hvalidator : ∀ key ∈ OrderedMap.names written, key ∈ validatorKeywords) {value : Json} :
    isValid (.object (base ++ written)) value = true ↔
      isValid (.object base) value = true ∧ isValid (.object written) value = true := by
  rw [isValid_iff, isValid_iff, isValid_iff, failures_append hbase hwritten hshape hvalidator,
    List.append_eq_nil_iff]

end Draft4
end ModelSchema
