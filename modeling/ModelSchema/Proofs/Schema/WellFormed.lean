import ModelSchema.Proofs.Model.History
import ModelSchema.Proofs.Schema.Contribution
import ModelSchema.Proofs.Schema.Draft4.Proper

/-!
# Compiled schemas are in order

What makes a schema a proper one is checked in different places: bounds are finite since rules are
built to validators, choices have branches since targets have candidates, and required names differ
since no registry names a field twice.  All of it reaches the document of a model, with the models
that are embedded in it, so a validator takes the document as a schema.  It may refuse patterns
only: those of the fields of the models within reach.

Main results:

- Theorem `Validator.proper_contribute`: validators leave a schema in order.
- Theorem `Target.HasFragment.proper`: a target with candidates has a schema in order.
- Theorem `Registry.proper_assemble`: a model whose properties are in order has a schema in order.
- Theorem `Catalog.wellFormed_of_compileNamed`: compiled schemas are in order.
-/

namespace ModelSchema

open Draft4 Relation

variable {τ : Type}

/-! ## Fragments -/

section Fragments

variable {patterns : String → Prop}

/-- Validators that come with the program write keywords in order. -/
theorem Validator.BuiltIn.admitted_keywords {validator : Validator} (h : validator.BuiltIn)
    (hpattern : ∀ p, validator = .regex p → patterns p.schemaText) :
    Admitted patterns validator.keywords := by
  cases validator with
  | min bound exclusive =>
    cases exclusive <;> simp [Admitted, Admits, Validator.keywords, OrderedMap.names]
  | max bound exclusive =>
    cases exclusive <;> simp [Admitted, Admits, Validator.keywords, OrderedMap.names]
  | regex p => simp [Admitted, Admits, Validator.keywords, OrderedMap.names, hpattern p rfl]
  | length least most =>
    cases most <;> simp [Admitted, Admits, Validator.keywords, OrderedMap.names, Json.int]
  | custom check keywords => exact h.elim

/-- Validators that come with the program leave a schema in order. -/
theorem Validator.proper_contribute {validators : List Validator} {base : Fragment}
    (hvalidators : ∀ validator ∈ validators, validator.BuiltIn)
    (hpatterns : ∀ p, .regex p ∈ validators → patterns p.schemaText)
    (hbase : Proper patterns (.object base)) :
    Proper patterns (.object (validators.foldl (fun written validator =>
      validator.contribute written) base)) := by
  have hschemas : ∀ key ∈ ["properties", "items", "oneOf"], key ∉ validatorKeywords := by decide
  induction validators generalizing base with
  | nil => exact hbase
  | cons validator rest ih =>
    rw [List.forall_mem_cons] at hvalidators
    have hadmitted : Admitted patterns validator.keywords :=
      hvalidators.1.admitted_keywords fun p heq => hpatterns p (heq ▸ List.mem_cons_self)
    refine ih hvalidators.2 (fun p hp => hpatterns p (List.mem_cons_of_mem _ hp)) ?_
    exact hbase.putAll hadmitted fun key hkey hmem =>
      hschemas key hkey (hvalidators.1.standard.names_keywords key hmem)

/-- The fragment of a scalar kind is in order. -/
theorem ScalarKind.proper_fragment (kind : ScalarKind) :
    Proper patterns (.object kind.fragment) := by
  rw [proper_object_iff]
  cases kind <;>
    simp [ScalarKind.fragment, ScalarKind.typeAndFormat, Admitted, Admits, OrderedMap.names,
      typeNames]

variable {models : ModelKey τ → Fragment → Prop} {fragment : Fragment}

/-- A target with candidates has a schema in order if the models among its candidates have one. -/
theorem Target.HasFragment.proper {t : Target τ} (h : t.HasFragment models fragment)
    (hne : t.toList ≠ [])
    (hmodels : ∀ key document, models key document → Proper patterns (.object document)) :
    Proper patterns (.object fragment) := by
  refine h.induction (motive := fun fragment => Proper patterns (.object fragment))
    ScalarKind.proper_fragment (fun fragments hlength hmany hall => ?_) hmodels
  have hsome : 0 < t.toList.length := List.length_pos_iff.mpr hne
  have htwo : 2 ≤ (fragments.map Json.object).length := by
    rw [List.length_map]
    omega
  rw [proper_object_iff]
  refine ⟨?_, by simp, by simp, ?_⟩
  · rw [Admitted, List.forall_mem_singleton]
    exact ⟨by simp [OrderedMap.names], _, rfl, htwo⟩
  · simp only [List.mem_singleton, Prod.mk.injEq, Json.array.injEq, true_and, forall_eq]
    exact List.forall_mem_map.mpr hall

/-- A shape has a schema in order if its target has candidates and the models among them have
schemas in order. -/
theorem Shape.HasFragment.proper {s : Shape τ} (h : s.HasFragment models fragment)
    (hne : ∀ target, s.target? = some target → target.toList ≠ [])
    (hmodels : ∀ key document, models key document → Proper patterns (.object document)) :
    Proper patterns (.object fragment) := by
  cases h with
  | scalar kind => exact kind.proper_fragment
  | embedded ht => exact ht.proper (hne _ rfl) hmodels
  | @list t items ht =>
    have hitems : Proper patterns (.object items) := ht.proper (hne _ rfl) hmodels
    rw [proper_object_iff]
    simp [Admitted, Admits, OrderedMap.names, typeNames, hitems]

/-- The properties of fields are in order if the targets of the fields have candidates, their models
have schemas in order and their validators come with the program. -/
theorem HasProperties.proper {models : String → ModelKey τ → Fragment → Prop}
    {fields : OrderedMap (Field τ)} {all : OrderedMap Json} (h : HasProperties models fields all)
    (hcandidates : ∀ field f target, (field, f) ∈ fields → f.shape.target? = some target →
      target.toList ≠ [])
    (hmodels : ∀ field key document, models field key document →
      Proper patterns (.object document))
    (hvalidators : ∀ entry ∈ fields, ∀ validator ∈ entry.2.validators, validator.BuiltIn)
    (hpatterns : ∀ entry ∈ fields, ∀ p, .regex p ∈ entry.2.validators → patterns p.schemaText) :
    ∀ property ∈ all, Proper patterns property.2 := by
  intro property hproperty
  obtain ⟨entry, hentry, -, fragment, hfragment, base, hbase, rfl⟩ :=
    exists_partner_of_mem_right h hproperty
  rw [hfragment]
  refine Validator.proper_contribute (hvalidators entry hentry) (hpatterns entry hentry) ?_
  exact hbase.proper (fun target => hcandidates entry.1 entry.2 target hentry) (hmodels entry.1)

/-- The required names are among those of the fields, in the same order. -/
theorem Registry.requiredNames_sublist (r : Registry τ) :
    r.requiredNames.Sublist r.fieldNames :=
  List.filter_sublist.map Prod.fst

/-- The document of a model without repeated names is in order if its properties are. -/
theorem Registry.proper_assemble {r : Registry τ} (hnodup : r.fieldNames.Nodup)
    {properties : OrderedMap Json} (hnames : OrderedMap.names properties = r.fieldNames)
    (h : ∀ property ∈ properties, Proper patterns property.2) :
    Proper patterns (.object (r.assemble properties)) := by
  have hrequired : r.requiredNames.Nodup ∧
      ∀ name ∈ r.requiredNames, name ∈ OrderedMap.names properties := by
    rw [hnames]
    exact ⟨hnodup.sublist r.requiredNames_sublist, fun _ => (r.requiredNames_sublist.subset ·)⟩
  rw [proper_object_iff, Registry.assemble]
  split
  · rename_i hany
    have hne : r.requiredNames ≠ [] := Registry.requiredNames_ne_nil_iff.mpr hany
    refine ⟨⟨by simp [OrderedMap.names], ?_⟩, by simpa using h, by simp, by simp⟩
    rw [List.forall_mem_cons, List.forall_mem_cons, List.forall_mem_singleton]
    exact ⟨⟨_, by simp [typeNames], rfl⟩, ⟨_, rfl⟩, r.requiredNames, properties, rfl, hne,
      hrequired.1, by simp, hrequired.2⟩
  · refine ⟨⟨by simp [OrderedMap.names], ?_⟩, by simpa using h, by simp, by simp⟩
    rw [List.forall_mem_cons, List.forall_mem_singleton]
    exact ⟨⟨_, by simp [typeNames], rfl⟩, ⟨_, rfl⟩⟩

end Fragments

/-! ## Catalogs -/

namespace Catalog

/-- A text is the pattern of a field of a model within reach. -/
def PatternWithin (c : Catalog τ) (start text : String) : Prop :=
  ∃ model r field f p, ReflTransGen c.Embeds start model ∧ c.get? model = some r ∧
    (field, f) ∈ r.fields ∧ .regex p ∈ f.validators ∧ text = p.schemaText

/-- A model has the patterns within reach of whatever it embeds within reach, too. -/
theorem PatternWithin.head {c : Catalog τ} {start next text : String}
    (hstep : c.Embeds start next) (h : c.PatternWithin next text) : c.PatternWithin start text := by
  obtain ⟨model, r, field, f, p, hreach, hrest⟩ := h
  exact ⟨model, r, field, f, p, hreach.head hstep, hrest⟩

variable [DecidableEq τ] {c : Catalog τ} {family : Family τ}

/-- The documents of a catalog are in order, with patterns from within reach. -/
theorem proper_of_expand {m : Manifest} (hc : ofManifest m = .ok c) {r : Registry τ}
    (hr : c.get? r.name = some r) {document : Fragment}
    (h : Scope.expand ⟨family, some c⟩ [] r = .ok document) :
    Proper (c.PatternWithin r.name) (.object document) := by
  refine compiled_induction
    (motive := fun r document => Proper (c.PatternWithin r.name) (.object document)) hc ?_ hr h
  rintro r document hr ⟨properties, hproperties, rfl⟩
  have hsound : r.Sound := sound_of_ofManifest hc r (of_findNamed hr).1
  have hin : HasProperties (fun _ _ mentioned =>
      Proper (c.PatternWithin r.name) (.object mentioned)) r.fields properties := by
    refine hproperties.mono ?_
    rintro field key mentioned hmentions ⟨next, rfl, hget, -, hnext⟩
    exact hnext.mono fun text => PatternWithin.head ⟨r, field, hr, hmentions⟩
  refine Registry.proper_assemble hsound.nodup hproperties.names_eq ?_
  refine hin.proper hsound.candidates (fun _ _ _ => id) ?_ ?_
  · intro entry hentry validator hvalidator
    obtain ⟨rule, hrule⟩ := exists_rule_of_mem_validators hc hr hentry hvalidator
    exact Rule.builtIn_of_build hrule
  · exact fun entry hentry p hp => ⟨r.name, r, entry.1, entry.2, p, .refl, hr, hentry, hp, rfl⟩

/-- Wherever a schema stands in a compiled one, it is an object with keywords in order; patterns
come from the fields of the models within reach.  If these can be read, and therefore if there are
none, the validator takes the compiled schema and checks any document. -/
theorem wellFormed_of_compileNamed {m : Manifest} (hc : ofManifest m = .ok c) {name : String}
    {schema : Json} (h : Scope.compileNamed ⟨family, some c⟩ name = .ok schema) :
    (∀ part, StandsIn part schema →
      ∃ members, part = .object members ∧ Admitted (c.PatternWithin name) members) ∧
    ((∀ text, c.PatternWithin name text → (SchemaPattern.ofText? text).isSome = true) →
      ∀ document, ∃ violations, violations? schema document = some violations) ∧
    ((∀ model r, ReflTransGen c.Embeds name model → c.get? model = some r →
        ∀ entry ∈ r.fields, ∀ p, .regex p ∉ entry.2.validators) →
      ∀ document, ∃ violations, violations? schema document = some violations) := by
  obtain ⟨r, hr⟩ := exists_get?_of_compileNamed h
  rw [compileNamed_of_get? hr, map_eq_ok_iff] at h
  obtain ⟨document, hexpand, rfl⟩ := h
  obtain ⟨-, rfl⟩ := of_findNamed hr
  have hproper : Proper (c.PatternWithin r.name) (.object document) :=
    proper_of_expand hc hr hexpand
  have hchecks : (∀ text, c.PatternWithin r.name text →
      (SchemaPattern.ofText? text).isSome = true) →
      ∀ value, ∃ violations, violations? (.object document) value = some violations := by
    intro hpatterns value
    rw [violations?, if_pos (isSchema_of_proper hproper hpatterns)]
    exact ⟨_, rfl⟩
  refine ⟨hproper, hchecks, fun hnone => hchecks ?_⟩
  rintro text ⟨model, next, field, f, p, hreach, hget, hfield, hp, -⟩
  exact absurd hp (hnone model next hreach hget (field, f) hfield p)

/-- A concert is an event that need not have a title; its acts are texts or events. -/
def concerts : Manifest :=
  ⟨[⟨"event", none,
      [⟨"title", "string", true, none, [.length 1 (some 40)]⟩,
        ⟨"stars", "int", false, none, [.min (.int 0) true, .min (.int 1) false]⟩]⟩,
    ⟨"concert", some "event",
      [⟨"title", "string", false, none, []⟩,
        ⟨"acts", "list", true, some (.many ["string", "event"]), [.length 1 none]⟩]⟩]⟩

/-- The fields of an event. -/
def eventFields : OrderedMap (Field Empty) :=
  [("title", ⟨.scalar .string, true, [.length 1 (some 40)]⟩),
    ("stars", ⟨.scalar .int, false, [.min (.int 0) true, .min (.int 1) false]⟩)]

/-- The models of concerts. -/
def concertsCatalog : Catalog Empty :=
  ⟨[⟨"event", .named "event", eventFields⟩,
    ⟨"concert", .named "concert",
      OrderedMap.put eventFields "title" ⟨.scalar .string, false, []⟩ ++
        [("acts", ⟨.list (.candidates [.primitive .string, .model (.named "event")]), true,
          [.length 1 none]⟩)]⟩]⟩

theorem ofManifest_concerts : ofManifest concerts = .ok concertsCatalog := by
  cbv

/-- What there is to know of the stars of an event. -/
def starsDocument : Fragment :=
  [("type", .string "integer"), ("minimum", .int 1), ("exclusiveMinimum", .bool true)]

/-- The document of an event. -/
def eventDocument : Fragment :=
  [("type", .string "object"),
    ("properties", .object
      [("title", .object
        [("type", .string "string"), ("minLength", .int 1), ("maxLength", .int 40)]),
        ("stars", .object starsDocument)]),
    ("required", .array [.string "title"])]

/-- The document of a concert. -/
def concertDocument : Fragment :=
  [("type", .string "object"),
    ("properties", .object
      [("title", .object [("type", .string "string")]), ("stars", .object starsDocument),
        ("acts", .object
          [("type", .string "array"),
            ("items", .object
              [("oneOf", .array [.object [("type", .string "string")], .object eventDocument])]),
            ("minLength", .int 1)])]),
    ("required", .array [.string "acts"])]

theorem compileNamed_concert :
    Scope.compileNamed ⟨.none, some concertsCatalog⟩ "concert" = .ok (.object concertDocument) := by
  cbv

/-- An event that stands among the acts of a concert has keywords in order, and any document can be
checked against the schema of a concert. -/
theorem checked_concert :
    Admitted (concertsCatalog.PatternWithin "concert") eventDocument ∧
      ∀ document, ∃ violations,
        violations? (.object concertDocument) document = some violations := by
  obtain ⟨hparts, -, hchecks⟩ := wellFormed_of_compileNamed ofManifest_concerts compileNamed_concert
  constructor
  · have hitems : StandsIn (.object eventDocument) (.object
        [("oneOf", .array [.object [("type", .string "string")], .object eventDocument])]) :=
      .branch List.mem_cons_self (by simp) .here
    have hacts : StandsIn (.object eventDocument) (.object concertDocument) :=
      .property (List.mem_cons_of_mem _ List.mem_cons_self)
        (List.mem_cons_of_mem _ (List.mem_cons_of_mem _ List.mem_cons_self))
        (.items (List.mem_cons_of_mem _ List.mem_cons_self) hitems)
    obtain ⟨members, heq, hmembers⟩ := hparts _ hacts
    cases heq
    exact hmembers
  · refine hchecks fun model r _ hget => ?_
    have hnone : ∀ r ∈ concertsCatalog.models, ∀ entry ∈ r.fields, ∀ p,
        .regex p ∉ entry.2.validators := by
      simp [concertsCatalog, eventFields, OrderedMap.put, or_imp, forall_and]
    exact hnone r (of_findNamed hget).1

end Catalog
end ModelSchema
