import ModelSchema.Proofs.Manifest.Flattening
import ModelSchema.Proofs.Schema.Composition
import ModelSchema.Proofs.Schema.Draft4.Emitted

/-!
# Compiled schemas stand on their own

A compiled schema has the schemas of embedded models within it, has under each keyword what belongs
there and refers to nothing.  What holds of all models of a catalog is proved along the embeddings,
which come to an end: a model may use what holds of the documents of the models that it mentions.

Main results:

- Theorem `Catalog.compiled_induction`: induction on the models that have a document.
- Theorem `Catalog.emitted_of_compileNamed`: what stands under the keywords of a compiled schema.
- Theorem `Catalog.hasProperties_of_compileNamed`: the properties of a compiled schema.
-/

namespace ModelSchema

open Draft4

variable {τ : Type}

/-! ## Fragments -/

section Fragments

/-- A range of lengths that is not refused is kept as it stands. -/
theorem Validator.eq_length_of_lengthBetween {least : Nat} {most : Option Nat}
    {validator : Validator} (h : lengthBetween least most = .ok validator) :
    validator = .length least most := by
  cases most with
  | none => exact (Except.ok.inj h).symm
  | some m =>
    unfold lengthBetween at h
    dsimp only at h
    split_ifs at h
    exact (Except.ok.inj h).symm

/-- The validators that come with the program, as opposed to functions that were attached. -/
def Validator.BuiltIn : Validator → Prop
  | .custom _ _ => False
  | _ => True

/-- Rules stand for validators that come with the program. -/
theorem Rule.builtIn_of_build {rule : Rule} {validator : Validator}
    (h : rule.build = .ok validator) : validator.BuiltIn := by
  cases rule with
  | min bound exclusive =>
    obtain ⟨n, -, rfl⟩ := map_eq_ok_iff.mp h
    trivial
  | max bound exclusive =>
    obtain ⟨n, -, rfl⟩ := map_eq_ok_iff.mp h
    trivial
  | regex pattern ignoreCase =>
    obtain ⟨p, -, rfl⟩ := map_eq_ok_iff.mp h
    trivial
  | length least most =>
    obtain rfl := Validator.eq_length_of_lengthBetween h
    trivial

/-- Validators that come with the program write each keyword with what belongs under it. -/
theorem Validator.BuiltIn.emitted_keywords {validator : Validator} (h : validator.BuiltIn) :
    Emitted .schema (.object validator.keywords) := by
  rw [Emitted.schema_iff]
  cases validator with
  | min bound exclusive =>
    cases exclusive <;>
      simp [Validator.keywords, OrderedMap.names, Part.ofKeyword, Emitted.bound, Emitted.flag]
  | max bound exclusive =>
    cases exclusive <;>
      simp [Validator.keywords, OrderedMap.names, Part.ofKeyword, Emitted.bound, Emitted.flag]
  | regex pattern =>
    simp [Validator.keywords, OrderedMap.names, Part.ofKeyword, Emitted.text]
  | length least most =>
    cases most <;> simp [Validator.keywords, OrderedMap.names, Part.ofKeyword, Emitted.count]
  | custom check keywords => exact h.elim

theorem Validator.BuiltIn.referenceFree_keywords {validator : Validator} (h : validator.BuiltIn) :
    ReferenceFree (.object validator.keywords) :=
  h.emitted_keywords.referenceFree

/-- Validators that come with the program leave a schema a schema. -/
theorem Validator.emitted_contribute {validators : List Validator} {base : Fragment}
    (hvalidators : ∀ validator ∈ validators, validator.BuiltIn)
    (hbase : Emitted .schema (.object base)) :
    Emitted .schema (.object (validators.foldl (fun written validator =>
      validator.contribute written) base)) := by
  induction validators generalizing base with
  | nil => exact hbase
  | cons validator rest ih =>
    rw [List.forall_mem_cons] at hvalidators
    exact ih hvalidators.2 (hbase.putAll hvalidators.1.emitted_keywords)

/-- The fragment of a scalar kind is a schema. -/
theorem ScalarKind.emitted_fragment (kind : ScalarKind) :
    Emitted .schema (.object kind.fragment) := by
  rw [Emitted.schema_iff]
  cases kind <;>
    simp [ScalarKind.fragment, ScalarKind.typeAndFormat, OrderedMap.names, Part.ofKeyword,
      Emitted.text]

theorem ScalarKind.referenceFree_fragment (kind : ScalarKind) :
    ReferenceFree (.object kind.fragment) :=
  kind.emitted_fragment.referenceFree

variable {models : ModelKey τ → Fragment → Prop} {fragment : Fragment}

/-- What holds of the fragments of kinds and models, and of a choice if it holds of all branches, of
which there is one for each candidate, holds of the fragment of a target. -/
theorem Target.HasFragment.induction {motive : Fragment → Prop} {t : Target τ}
    (scalar : ∀ kind : ScalarKind, motive kind.fragment)
    (choice : ∀ fragments : List Fragment, fragments.length = t.toList.length →
      fragments.length ≠ 1 → (∀ fragment ∈ fragments, motive fragment) →
        motive [("oneOf", .array (fragments.map .object))])
    (h : t.HasFragment models fragment)
    (hmodels : ∀ key document, models key document → motive document) : motive fragment := by
  have hcandidate : ∀ {candidate : Candidate τ} {fragment : Fragment},
      candidate.HasFragment models fragment → motive fragment := by
    intro candidate fragment hfragment
    cases hfragment with
    | primitive kind => exact scalar kind
    | model hmodel => exact hmodels _ _ hmodel
  cases h with
  | only _ hfirst => exact hcandidate hfirst
  | choice hmany hall =>
    have hlength := hall.length_eq.symm
    refine choice _ hlength (hlength ▸ hmany) fun fragment hfragment => ?_
    obtain ⟨candidate, -, hbranch⟩ := exists_partner_of_mem_right hall hfragment
    exact hcandidate hbranch

/-- A target has a schema if the models among its candidates have one. -/
theorem Target.HasFragment.emitted {t : Target τ} (h : t.HasFragment models fragment)
    (hmodels : ∀ key document, models key document → Emitted .schema (.object document)) :
    Emitted .schema (.object fragment) := by
  refine h.induction (motive := fun fragment => Emitted .schema (.object fragment))
    ScalarKind.emitted_fragment (fun fragments _ _ hall => ?_) hmodels
  have hbranches : Emitted .branches (.array (fragments.map .object)) :=
    .branches (List.forall_mem_map.mpr hall)
  rw [Emitted.schema_iff, List.forall_mem_singleton]
  exact ⟨by simp [OrderedMap.names], hbranches⟩

/-- A target has no references if the models among its candidates have none. -/
theorem Target.HasFragment.referenceFree {t : Target τ} (h : t.HasFragment models fragment)
    (hmodels : ∀ key document, models key document → ReferenceFree (.object document)) :
    ReferenceFree (.object fragment) := by
  refine h.induction (motive := fun fragment => ReferenceFree (.object fragment))
    ScalarKind.referenceFree_fragment (fun fragments _ _ hall => ?_) hmodels
  refine .object (by simp) ?_
  rw [List.forall_mem_singleton, referenceFree_array_iff, List.forall_mem_map]
  exact hall

/-- A list has no references if its items have none. -/
theorem referenceFree_list {items : Fragment} (h : ReferenceFree (.object items)) :
    ReferenceFree (.object [("type", .string "array"), ("items", .object items)]) := by
  refine .object (by simp) ?_
  rw [List.forall_mem_cons, List.forall_mem_singleton]
  exact ⟨.string _, h⟩

/-- A shape has a schema if the models among its candidates have one. -/
theorem Shape.HasFragment.emitted {s : Shape τ} (h : s.HasFragment models fragment)
    (hmodels : ∀ key document, models key document → Emitted .schema (.object document)) :
    Emitted .schema (.object fragment) := by
  cases h with
  | scalar kind => exact kind.emitted_fragment
  | embedded ht => exact ht.emitted hmodels
  | @list t items ht =>
    have hitems : Emitted .schema (.object items) := ht.emitted hmodels
    rw [Emitted.schema_iff]
    simp [OrderedMap.names, Part.ofKeyword, Emitted.text, hitems]

/-- The properties of fields are schemas if their models have schemas and their validators come with
the program. -/
theorem HasProperties.emitted {models : String → ModelKey τ → Fragment → Prop}
    {fields : OrderedMap (Field τ)} {all : OrderedMap Json}
    (h : HasProperties models fields all) (hnames : (OrderedMap.names fields).Nodup)
    (hmodels : ∀ field key document, models field key document →
      Emitted .schema (.object document))
    (hvalidators : ∀ entry ∈ fields, ∀ validator ∈ entry.2.validators, validator.BuiltIn) :
    Emitted .properties (.object all) := by
  refine .properties (h.names_eq ▸ hnames) fun property hproperty => ?_
  obtain ⟨entry, hentry, -, fragment, hfragment, base, hbase, rfl⟩ :=
    exists_partner_of_mem_right h hproperty
  rw [hfragment]
  exact Validator.emitted_contribute (hvalidators entry hentry) (hbase.emitted (hmodels entry.1))

/-- The document of a model is a schema if its properties are schemas. -/
theorem Registry.emitted_assemble (r : Registry τ) {properties : OrderedMap Json}
    (h : Emitted .properties (.object properties)) :
    Emitted .schema (.object (r.assemble properties)) := by
  rw [Emitted.schema_iff, Registry.assemble]
  split
  · simp [OrderedMap.names, Part.ofKeyword, Emitted.text, h, Emitted.names]
  · simp [OrderedMap.names, Part.ofKeyword, Emitted.text, h]

end Fragments

/-! ## Catalogs -/

namespace Catalog

/-- The validators of a catalog come from rules. -/
theorem exists_rule_of_mem_validators {m : Manifest} {c : Catalog τ} (hc : ofManifest m = .ok c)
    {name : String} {r : Registry τ} (hr : c.get? name = some r) {entry : String × Field τ}
    (hentry : entry ∈ r.fields) {validator : Validator} (h : validator ∈ entry.2.validators) :
    ∃ rule : Rule, rule.build = .ok validator := by
  obtain ⟨_, -, hresolves⟩ := (get?_eq_some_iff hc).mp hr
  obtain ⟨written, -, hbuild⟩ := hresolves.exists_entry hentry
  obtain ⟨-, -, -, hrules⟩ := FieldEntry.build_eq_ok_iff.mp hbuild
  obtain ⟨rule, -, hrule⟩ := exists_partner_of_mem_right (buildRules_eq_ok_iff.mp hrules) h
  exact ⟨rule, hrule⟩

variable [DecidableEq τ] {c : Catalog τ} {family : Family τ}

/-- The documents of declared models of which something holds, by key. -/
def CompiledWith (family : Family τ) (c : Catalog τ) (motive : Registry τ → Fragment → Prop)
    (key : ModelKey τ) (document : Fragment) : Prop :=
  ∃ next, key = .named next.name ∧ c.get? next.name = some next ∧
    Scope.expand ⟨family, some c⟩ [] next = .ok document ∧ motive next document

/-- What holds of the document of a model, if it holds of the documents of the models that it
mentions, holds of all documents of a catalog. -/
theorem compiled_induction {m : Manifest} (hc : ofManifest m = .ok c)
    {motive : Registry τ → Fragment → Prop}
    (step : ∀ r document, c.get? r.name = some r →
      r.HasDocument (fun _ => c.CompiledWith family motive) document → motive r document)
    {r : Registry τ} (hr : c.get? r.name = some r) {document : Fragment}
    (h : Scope.expand ⟨family, some c⟩ [] r = .ok document) : motive r document := by
  have hnamed := named_of_ofManifest hc
  have hacc := (closed_and_acc_of_expand_eq_ok hr h).2
  generalize hname : r.name = name at hacc
  induction hacc generalizing r document with
  | intro name _ ih =>
    subst hname
    have hdocument :=
      (expand_eq_ok_iff_hasDocument hnamed hr (nodup_fieldNames_of_get? hc hr)).mp h
    refine step r document hr (hdocument.mono fun field key mentioned hmentions hcompiled => ?_)
    obtain ⟨target, rfl⟩ := hnamed.mentions r (of_findNamed hr).1 field key hmentions
    obtain ⟨next, hget, hexpand⟩ := compiled_named_iff.mp hcompiled
    obtain ⟨-, rfl⟩ := of_findNamed hget
    have hembeds : c.Embeds r.name next.name := ⟨r, field, hr, hmentions⟩
    exact ⟨next, rfl, hget, hexpand, ih next.name hembeds hget hexpand rfl⟩

/-- The documents of a catalog have under each keyword what belongs there. -/
theorem emitted_of_expand {m : Manifest} (hc : ofManifest m = .ok c) {r : Registry τ}
    (hr : c.get? r.name = some r) {document : Fragment}
    (h : Scope.expand ⟨family, some c⟩ [] r = .ok document) :
    Emitted .schema (.object document) := by
  refine compiled_induction (motive := fun _ document => Emitted .schema (.object document))
    hc ?_ hr h
  rintro r document hr ⟨properties, hproperties, rfl⟩
  refine r.emitted_assemble (hproperties.emitted (nodup_fieldNames_of_get? hc hr) ?_ ?_)
  · rintro field key mentioned ⟨-, -, -, -, hmentioned⟩
    exact hmentioned
  · intro entry hentry validator hvalidator
    obtain ⟨rule, hrule⟩ := exists_rule_of_mem_validators hc hr hentry hvalidator
    exact Rule.builtIn_of_build hrule

/-- A compiled schema has under each keyword what belongs there. -/
theorem emitted_of_compileNamed {m : Manifest} (hc : ofManifest m = .ok c) {name : String}
    {schema : Json} (h : Scope.compileNamed ⟨family, some c⟩ name = .ok schema) :
    Emitted .schema schema := by
  obtain ⟨r, hr⟩ := exists_get?_of_compileNamed h
  rw [compileNamed_of_get? hr, map_eq_ok_iff] at h
  obtain ⟨document, hexpand, rfl⟩ := h
  obtain ⟨-, rfl⟩ := of_findNamed hr
  exact emitted_of_expand hc hr hexpand

/-- A compiled schema is the document of a declared model, put together from one property for each
field, and refers to nothing. -/
theorem hasProperties_of_compileNamed {m : Manifest} (hc : ofManifest m = .ok c) {name : String}
    {schema : Json} (h : Scope.compileNamed ⟨family, some c⟩ name = .ok schema) :
    ∃ r properties, c.get? name = some r ∧ schema = .object (r.assemble properties) ∧
      r.fieldNames.Nodup ∧ HasProperties (fun _ => c.Compiled family) r.fields properties ∧
        ReferenceFree schema := by
  obtain ⟨r, hr⟩ := exists_get?_of_compileNamed h
  rw [compileNamed_of_get? hr, map_eq_ok_iff] at h
  obtain ⟨document, hexpand, rfl⟩ := h
  have hnodup : r.fieldNames.Nodup := nodup_fieldNames_of_get? hc hr
  obtain ⟨-, rfl⟩ := of_findNamed hr
  obtain ⟨properties, hproperties, rfl⟩ :=
    (expand_eq_ok_iff_hasDocument (named_of_ofManifest hc) hr hnodup).mp hexpand
  exact ⟨r, properties, hr, rfl, hnodup, hproperties,
    (emitted_of_expand hc hr hexpand).referenceFree⟩

/-- A model that is compiled on its own refers to nothing. -/
theorem Compiled.referenceFree {m : Manifest} (hc : ofManifest m = .ok c) {key : ModelKey τ}
    {document : Fragment} (h : c.Compiled family key document) :
    ReferenceFree (.object document) := by
  obtain ⟨name, rfl, hcompile⟩ := h
  exact (emitted_of_compileNamed hc hcompile).referenceFree

end Catalog
end ModelSchema
