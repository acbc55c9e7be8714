import ModelSchema.Proofs.Schema.Bounds
import ModelSchema.Proofs.Schema.Choice
import ModelSchema.Proofs.Schema.Comparison

/-!
# Schemas of the same shape admit the same values

The comparison of schemas takes `required` and `oneOf` wherever they occur for keywords under which
order has no meaning, and so it does below `properties`, where they are names of properties.  There
they stand over schemas, which are objects, and no order is lost.  What stands under a keyword is
known of emitted schemas, so two of them that have the same shape say the same under each keyword.

Main results:

- Theorem `Draft4.KeywordsAgree.equivalent`: keywords that agree one by one admit the same values.
- Theorem `Draft4.Emitted.agree`: emitted values of the same shape agree.
- Theorem `Catalog.isValid_iff_of_sameShape`: compiled schemas that compare admit the same values.
-/

namespace ModelSchema

namespace Json.Alike

variable {unordered : Bool}

/-- The items of arrays of the same shape match, in their places or in some order. -/
theorem rel_of_array {as bs : List Json} (h : Alike unordered (.array as) (.array bs)) :
    Multiset.Rel (Alike false) (as : Multiset Json) (bs : Multiset Json) := by
  cases h with
  | ordered hall => exact rel_iff_exists_perm.mpr ⟨bs, .refl bs, hall⟩
  | unordered hrel => exact hrel

/-- Objects of the same shape have members of the same names. -/
theorem names_iff {as bs : Members} (h : Alike unordered (.object as) (.object bs))
    (key : String) : key ∈ OrderedMap.names as ↔ key ∈ OrderedMap.names bs :=
  (OrderedMap.related_iff.mp (object_iff.mp h)).1 key

/-- Members of one name have the same shape if objects with distinct names do. -/
theorem of_mem {as bs : Members} (h : Alike unordered (.object as) (.object bs))
    (has : (OrderedMap.names as).Nodup) (hbs : (OrderedMap.names bs).Nodup) {key : String}
    {a b : Json} (ha : (key, a) ∈ as) (hb : (key, b) ∈ bs) : Alike (isUnorderedKey key) a b := by
  rw [← OrderedMap.value?_eq_some_iff has] at ha
  rw [← OrderedMap.value?_eq_some_iff hbs] at hb
  exact (OrderedMap.related_iff.mp (object_iff.mp h)).2 key a b ha hb

/-- A text of an array is in the arrays of its shape. -/
theorem mem_of_strings {names names' : List String}
    (h : Alike unordered (.array (names.map .string)) (.array (names'.map .string)))
    {name : String} (hname : name ∈ names) : name ∈ names' := by
  obtain ⟨b, hb, halike⟩ := exists_partner_of_rel h.rel_of_array (List.mem_map_of_mem hname)
  obtain ⟨name', hname', rfl⟩ := List.mem_map.mp hb
  cases halike
  exact hname'

end Json.Alike

namespace Draft4

/-! ## Values that say the same -/

/-- Two schemas admit the same values. -/
def Equivalent (a b : Json) : Prop := ∀ value, isValid a value = isValid b value

/-- Two values that stand under a keyword say the same of the values that are checked. -/
inductive Part.Agree : Part → Json → Json → Prop where
  | schema {a b : Json.Members} (h : Equivalent (.object a) (.object b)) :
      Agree .schema (.object a) (.object b)
  | properties {as bs : Json.Members}
      (hnames : ∀ name, name ∈ OrderedMap.names as ↔ name ∈ OrderedMap.names bs)
      (h : ∀ name a b, (name, a) ∈ as → (name, b) ∈ bs → Equivalent a b) :
      Agree .properties (.object as) (.object bs)
  | branches {as bs : List Json}
      (h : Multiset.Rel Equivalent (as : Multiset Json) (bs : Multiset Json)) :
      Agree .branches (.array as) (.array bs)
  | names {names names' : List String} (h : ∀ name, name ∈ names ↔ name ∈ names') :
      Agree .names (.array (names.map .string)) (.array (names'.map .string))
  | text (text : String) : Agree .text (.string text) (.string text)
  | bound {bound bound' : Number} (h : bound.units = bound'.units) :
      Agree .bound (.number bound) (.number bound')
  | flag : Agree .flag (.bool true) (.bool true)
  | count (count : Nat) : Agree .count (.int count) (.int count)

/-- Schemas that agree admit the same values. -/
theorem Part.Agree.equivalent {a b : Json} (h : Part.schema.Agree a b) : Equivalent a b := by
  cases h with
  | schema h => exact h

/-! ## Under a keyword -/

section Keyword

variable {siblings : Json.Members} {rules : Rules} {value : Json}

/-- As many branches admit a value as branches that match them. -/
theorem length_filter_eq_of_rel {as bs : List Json}
    (h : Multiset.Rel Equivalent (as : Multiset Json) (bs : Multiset Json)) (value : Json) :
    (as.filter (isValid · value)).length = (bs.filter (isValid · value)).length := by
  obtain ⟨paired, hperm, hall⟩ := rel_iff_exists_perm.mp h
  rw [← (hperm.filter _).length_eq]
  clear h hperm
  induction hall with
  | nil => rfl
  | cons hfirst _ ih => simp [List.filter_cons, hfirst value, apply_ite List.length, ih]

/-- Bounds of one value exclude the same values. -/
theorem keywordFailures_bound (side : Side) {bound bound' : Number}
    (h : bound.units = bound'.units) :
    keywordFailures siblings rules side.keyword (ruleOf (.number bound)) value = [] ↔
      keywordFailures siblings rules side.keyword (ruleOf (.number bound')) value = [] := by
  cases value with
  | number n =>
    rw [side.keywordFailures_keyword, side.keywordFailures_keyword]
    cases side <;> simp [Side.Admits, Side.Within, h]
  | _ => cases side <;> rfl

/-- Properties of the same names that admit the same values fail together. -/
theorem keywordFailures_properties_iff {as bs : Json.Members}
    (hnames : ∀ name, name ∈ OrderedMap.names as ↔ name ∈ OrderedMap.names bs)
    (h : ∀ name a b, (name, a) ∈ as → (name, b) ∈ bs → Equivalent a b) :
    keywordFailures siblings rules "properties" (ruleOf (.object as)) value = [] ↔
      keywordFailures siblings rules "properties" (ruleOf (.object bs)) value = [] := by
  by_cases hvalue : ∃ members, value = .object members
  · obtain ⟨members, rfl⟩ := hvalue
    rw [keywordFailures_properties, keywordFailures_properties]
    by_cases hothers : restrictsOthers rules = true
    · rw [if_pos hothers, if_pos hothers]
    · rw [if_neg hothers, if_neg hothers, propertyFailures_eq_nil_iff, propertyFailures_eq_nil_iff]
      apply OrderedMap.forall_mem_iff_of_names hnames
      intro name a b ha hb
      simp only [h name a b ha hb _]
  · have hne : ∀ members, value ≠ .object members := fun members heq => hvalue ⟨members, heq⟩
    rw [keywordFailures_of_ne_object (.inl rfl) _ hne,
      keywordFailures_of_ne_object (.inl rfl) _ hne]

/-- The same names are required in any order, and however often they are listed. -/
theorem keywordFailures_required_iff {names names' : List String}
    (h : ∀ name, name ∈ names ↔ name ∈ names') :
    keywordFailures siblings rules "required" (ruleOf (.array (names.map .string))) value = [] ↔
      keywordFailures siblings rules "required" (ruleOf (.array (names'.map .string))) value =
        [] := by
  by_cases hvalue : ∃ members, value = .object members
  · obtain ⟨members, rfl⟩ := hvalue
    simp only [keywordFailures_required, lacking_eq_nil_iff, h]
  · have hne : ∀ members, value ≠ .object members := fun members heq => hvalue ⟨members, heq⟩
    rw [keywordFailures_of_ne_object (.inr rfl) _ hne,
      keywordFailures_of_ne_object (.inr rfl) _ hne]

/-- Values that agree under a keyword fail the same values under it. -/
theorem Part.Agree.keywordFailures_iff {key : String} {a b : Json}
    (h : (Part.ofKeyword key).Agree a b) :
    keywordFailures siblings rules key (ruleOf a) value = [] ↔
      keywordFailures siblings rules key (ruleOf b) value = [] := by
  generalize hpart : Part.ofKeyword key = part at h
  cases h with
  | schema h =>
    obtain rfl : key = "items" := by
      simpa [Part.keywords] using Part.mem_keywords hpart (by decide)
    cases value with
    | array values =>
      rw [keywordFailures_items, keywordFailures_items]
      simp only [h _]
    | _ => rfl
  | properties hnames h =>
    obtain rfl : key = "properties" := by
      simpa [Part.keywords] using Part.mem_keywords hpart (by decide)
    exact keywordFailures_properties_iff hnames h
  | branches h =>
    obtain rfl : key = "oneOf" := by
      simpa [Part.keywords] using Part.mem_keywords hpart (by decide)
    rw [keywordFailures_oneOf, keywordFailures_oneOf, length_filter_eq_of_rel h]
  | names h =>
    obtain rfl : key = "required" := by
      simpa [Part.keywords] using Part.mem_keywords hpart (by decide)
    exact keywordFailures_required_iff h
  | bound h =>
    obtain rfl | rfl : key = "minimum" ∨ key = "maximum" := by
      simpa [Part.keywords] using Part.mem_keywords hpart (by decide)
    · exact keywordFailures_bound .lower h
    · exact keywordFailures_bound .upper h
  -- These agree only if they are the same.
  | text => rfl
  | flag => rfl
  | count => rfl

end Keyword

/-! ## Schemas -/

/-- Two schemas have the same keywords, and what stands under each of them agrees. -/
structure KeywordsAgree (as bs : Json.Members) : Prop where
  names : ∀ key, key ∈ OrderedMap.names as ↔ key ∈ OrderedMap.names bs
  parts : ∀ key a b, (key, a) ∈ as → (key, b) ∈ bs → (Part.ofKeyword key).Agree a b

namespace KeywordsAgree

variable {as bs : Json.Members}

/-- Both members of a name, if there is one. -/
theorem exists_parts (h : KeywordsAgree as bs) {key : String} (hkey : key ∈ OrderedMap.names as) :
    ∃ a b, OrderedMap.value? as key = some a ∧ OrderedMap.value? bs key = some b ∧
      (Part.ofKeyword key).Agree a b := by
  obtain ⟨a, ha⟩ := OrderedMap.exists_value?_of_name_mem hkey
  obtain ⟨b, hb⟩ := OrderedMap.exists_value?_of_name_mem ((h.names key).mp hkey)
  exact ⟨a, b, ha, hb, h.parts key a b (OrderedMap.mem_of_value? ha) (OrderedMap.mem_of_value? hb)⟩

/-- There are no keywords but those that are written. -/
theorem notMem_names (h : KeywordsAgree as bs) {key : String}
    (hkey : Part.ofKeyword key = .unused) : key ∉ OrderedMap.names as := by
  intro hmem
  obtain ⟨a, b, -, -, hagree⟩ := h.exists_parts hmem
  rw [hkey] at hagree
  cases hagree

/-- A bound excludes itself in both schemas or in neither. -/
theorem isExclusive_eq (h : KeywordsAgree as bs) {key : String}
    (hkey : Part.ofKeyword key = .flag) : isExclusive as key = isExclusive bs key := by
  by_cases hmem : key ∈ OrderedMap.names as
  · obtain ⟨a, b, ha, hb, hagree⟩ := h.exists_parts hmem
    rw [hkey] at hagree
    cases hagree
    rw [isExclusive, isExclusive, ha, hb]
  · have hmem' : key ∉ OrderedMap.names bs := fun hb => hmem ((h.names key).mpr hb)
    rw [← OrderedMap.value?_eq_none_iff] at hmem hmem'
    rw [isExclusive, isExclusive, hmem, hmem']

/-- A keyword that is written fails the same values in both schemas. -/
theorem keywordFailures_iff (h : KeywordsAgree as bs) {key : String} {a b : Json}
    (ha : (key, a) ∈ as) (hb : (key, b) ∈ bs) {value : Json} :
    keywordFailures as (rulesOf as) key (ruleOf a) value = [] ↔
      keywordFailures bs (rulesOf bs) key (ruleOf b) value = [] := by
  have hothers : "additionalProperties" ∉ OrderedMap.names as := h.notMem_names rfl
  have hothers' : "additionalProperties" ∉ OrderedMap.names bs :=
    fun hmem => hothers ((h.names _).mpr hmem)
  have hwritten : Part.ofKeyword key ≠ .unused :=
    fun hunused => h.notMem_names hunused (OrderedMap.name_mem_of_mem ha)
  have hbeside : keywordFailures as (rulesOf as) key (ruleOf a) value =
      keywordFailures bs (rulesOf bs) key (ruleOf a) value := by
    refine keywordFailures_congr ?_ ?_ ?_ (fun _ => h.isExclusive_eq rfl)
      fun _ => h.isExclusive_eq rfl
    · rintro rfl
      exact hwritten rfl
    · rintro rfl
      exact hwritten rfl
    · rw [restrictsOthers_of_notMem hothers, restrictsOthers_of_notMem hothers']
  rw [hbeside]
  exact (h.parts key a b ha hb).keywordFailures_iff

/-- Keywords that agree one by one admit the same values. -/
theorem equivalent (h : KeywordsAgree as bs) (has : ReferenceFree (.object as))
    (hbs : ReferenceFree (.object bs)) : Equivalent (.object as) (.object bs) := by
  intro value
  rw [Bool.eq_iff_iff, isValid_object_iff has, isValid_object_iff hbs]
  apply OrderedMap.forall_mem_iff_of_names h.names
  intro key a b ha hb
  exact h.keywordFailures_iff ha hb

end KeywordsAgree

/-- Emitted values of the same shape agree, whichever name they stand under. -/
theorem Emitted.agree {part : Part} {a b : Json} {unordered : Bool} (ha : Emitted part a)
    (hb : Emitted part b) (h : Json.Alike unordered a b) : part.Agree a b := by
  induction ha generalizing b unordered with
  | @schema members hnames hmembers ih =>
    cases hb with
    | @schema members' hnames' hmembers' =>
      have hagree : KeywordsAgree members members' :=
        ⟨h.names_iff, fun key a b ha hb => ih (key, a) ha (hmembers' (key, b) hb)
          (h.of_mem hnames hnames' ha hb)⟩
      exact .schema (hagree.equivalent (Emitted.schema hnames hmembers).referenceFree
        (Emitted.schema hnames' hmembers').referenceFree)
  | properties hnames hproperties ih =>
    cases hb with
    | properties hnames' hproperties' =>
      refine .properties h.names_iff fun name a b ha hb => ?_
      exact (ih (name, a) ha (hproperties' (name, b) hb) (h.of_mem hnames hnames' ha hb)).equivalent
  | branches hbranches ih =>
    cases hb with
    | branches hbranches' =>
      refine .branches (h.rel_of_array.mono fun a ha b hb halike => ?_)
      rw [Multiset.mem_coe] at ha hb
      exact (ih a ha (hbranches' b hb) halike).equivalent
  | names names =>
    cases hb with
    | names names' =>
      exact .names fun name => ⟨h.mem_of_strings, h.symm.mem_of_strings⟩
  | text text =>
    cases hb
    cases h
    exact .text text
  | bound bound =>
    cases hb with
    | bound bound' =>
      cases h with
      | number hsame => exact .bound (Number.units_eq_of_same hsame)
  | flag =>
    cases hb
    exact .flag
  | count count =>
    cases hb with
    | count count' =>
      cases h with
      | number hsame =>
        obtain rfl : count = count' := by simpa [Number.same] using hsame
        exact .count count

end Draft4

namespace Catalog

open Draft4

variable {τ τ' : Type} [DecidableEq τ] [DecidableEq τ'] {c : Catalog τ} {c' : Catalog τ'}
  {family : Family τ} {family' : Family τ'}

/-- Two compiled schemas of the same shape, from one catalog or from two, admit the same values.
Fields may be called as they like, also as keywords are. -/
theorem isValid_iff_of_sameShape {m m' : Manifest} (hc : ofManifest m = .ok c)
    (hc' : ofManifest m' = .ok c') {name name' : String} {schema schema' : Json}
    (hcompile : Scope.compileNamed ⟨family, some c⟩ name = .ok schema)
    (hcompile' : Scope.compileNamed ⟨family', some c'⟩ name' = .ok schema')
    (hsame : Json.sameShape schema schema' = true) (document : Json) :
    isValid schema document = true ↔ isValid schema' document = true := by
  have hemitted : Emitted .schema schema := emitted_of_compileNamed hc hcompile
  have hemitted' : Emitted .schema schema' := emitted_of_compileNamed hc' hcompile'
  have halike : Json.Alike false schema schema' :=
    (Json.sameShape_iff hemitted.distinct hemitted'.distinct).mp hsame
  rw [(hemitted.agree hemitted' halike).equivalent document]

/-- A form asks whether it is required, and for one of two answers. -/
def forms : Manifest :=
  ⟨[⟨"form", none, [⟨"required", "bool", true, none, []⟩,
    ⟨"oneOf", "embedded", true, some (.many ["string", "int"]), []⟩]⟩]⟩

/-- A sheet is a form in another order. -/
def sheets : Manifest :=
  ⟨[⟨"sheet", none, [⟨"oneOf", "embedded", true, some (.many ["int", "string"]), []⟩,
    ⟨"required", "bool", true, none, []⟩]⟩]⟩

/-- The only model of forms. -/
def formsCatalog : Catalog Empty :=
  ⟨[⟨"form", .named "form", [("required", ⟨.scalar .bool, true, []⟩),
    ("oneOf", ⟨.embedded (.candidates [.primitive .string, .primitive .int]), true, []⟩)]⟩]⟩

/-- The only model of sheets. -/
def sheetsCatalog : Catalog Empty :=
  ⟨[⟨"sheet", .named "sheet",
    [("oneOf", ⟨.embedded (.candidates [.primitive .int, .primitive .string]), true, []⟩),
      ("required", ⟨.scalar .bool, true, []⟩)]⟩]⟩

/-- The schema of a form. -/
def formSchema : Json :=
  .object [("type", .string "object"),
    ("properties", .object [("required", .object [("type", .string "boolean")]),
      ("oneOf", .object [("oneOf", .array
        [.object [("type", .string "string")], .object [("type", .string "integer")]])])]),
    ("required", .array [.string "required", .string "oneOf"])]

/-- The schema of a sheet. -/
def sheetSchema : Json :=
  .object [("type", .string "object"),
    ("properties", .object [("oneOf", .object [("oneOf", .array
        [.object [("type", .string "integer")], .object [("type", .string "string")]])]),
      ("required", .object [("type", .string "boolean")])]),
    ("required", .array [.string "oneOf", .string "required"])]

/-- What conforms to a form conforms to a sheet. -/
theorem isValid_sheetSchema :
    ofManifest forms = .ok formsCatalog ∧ ofManifest sheets = .ok sheetsCatalog ∧
      Scope.compileNamed ⟨.none, some formsCatalog⟩ "form" = .ok formSchema ∧
      Scope.compileNamed ⟨.none, some sheetsCatalog⟩ "sheet" = .ok sheetSchema ∧
      Json.sameShape formSchema sheetSchema = true ∧
      isValid sheetSchema (.object [("oneOf", .int 5), ("required", .bool true)]) = true := by
  have hforms : ofManifest forms = .ok formsCatalog := by cbv
  have hsheets : ofManifest sheets = .ok sheetsCatalog := by cbv
  have hform : Scope.compileNamed ⟨.none, some formsCatalog⟩ "form" = .ok formSchema := by cbv
  have hsheet : Scope.compileNamed ⟨.none, some sheetsCatalog⟩ "sheet" = .ok sheetSchema := by cbv
  have hsame : Json.sameShape formSchema sheetSchema = true := by cbv
  refine ⟨hforms, hsheets, hform, hsheet, hsame, ?_⟩
  refine (isValid_iff_of_sameShape hforms hsheets hform hsheet hsame _).mp ?_
  decide +kernel

end Catalog
end ModelSchema
