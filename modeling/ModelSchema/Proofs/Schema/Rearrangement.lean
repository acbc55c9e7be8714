import ModelSchema.Proofs.Manifest.Rearrangement
import ModelSchema.Proofs.Schema.Comparison
import ModelSchema.Proofs.Schema.SelfContained

/-!
# Schemas of declarations in another order

The order of declarations shows in a schema: in the order of properties, of required names and of
the branches of choices, at every depth.  The comparison of schemas does not see it.  Models embed
the same models in whatever order they are declared, so the same models have a schema.

Main results:

- Theorem `Field.Rearranged.alike`: the fragments of a field have the same shape.
- Theorem `Registry.Rearranged.alike_assemble`: documents have the shape of their properties.
- Theorem `Catalog.sameShape_of_rearranged`: the schemas of a manifest in another order.
-/

namespace ModelSchema

open Draft4

variable {τ : Type}

/-! ## Objects of the same shape -/

namespace Json.Alike

variable {unordered : Bool} {as bs : Members}

/-- Members of the same shape stand in front of objects of the same shape. -/
theorem cons {key : String} {a b : Json} (hab : Alike (isUnorderedKey key) a b)
    (h : Alike unordered (.object as) (.object bs)) :
    Alike unordered (.object ((key, a) :: as)) (.object ((key, b) :: bs)) :=
  object_iff.mpr ((object_iff.mp h).cons hab)

/-- Objects have the same shape under whatever name they stand. -/
theorem of_object {unordered' : Bool} (h : Alike unordered (.object as) (.object bs)) :
    Alike unordered' (.object as) (.object bs) :=
  object_iff.mpr (object_iff.mp h)

/-- Texts in another order have the same shape where order has no meaning. -/
theorem strings_of_perm {names names' : List String} (h : names.Perm names') :
    Alike true (.array (names.map .string)) (.array (names'.map .string)) := by
  refine .unordered ?_
  rw [Multiset.coe_eq_coe.mpr (h.map Json.string)]
  exact Multiset.rel_refl_of_refl_on fun text _ => .refl false text

/-- The same validators leave fragments of the same shape. -/
theorem contribute (validators : List Validator)
    (h : Alike unordered (.object as) (.object bs)) :
    Alike unordered
      (.object (validators.foldl (fun written validator => validator.contribute written) as))
      (.object (validators.foldl (fun written validator => validator.contribute written) bs)) := by
  induction validators generalizing as bs with
  | nil => exact h
  | cons validator rest ih =>
    have hrefl : OrderedMap.Related (fun key => Alike (isUnorderedKey key))
        validator.keywords.reverse validator.keywords.reverse :=
      object_iff.mp (.refl unordered _)
    exact ih (object_iff.mpr ((object_iff.mp h).putAll hrefl))

end Json.Alike

/-! ## Fragments -/

section Fragments

open Json (Alike)

variable {models models' : ModelKey τ → Fragment → Prop} {fragment fragment' : Fragment}

/-- Two ways to give models documents give each model documents of the same shape. -/
def AlikeModels (models models' : ModelKey τ → Fragment → Prop) : Prop :=
  ∀ key document document', models key document → models' key document' →
    Alike false (.object document) (.object document')

/-- The fragments of a candidate have the same shape. -/
theorem Candidate.HasFragment.alike (hmodels : AlikeModels models models')
    {candidate : Candidate τ} (h : candidate.HasFragment models fragment)
    (h' : candidate.HasFragment models' fragment') :
    Alike false (.object fragment) (.object fragment') := by
  cases h with
  | primitive kind =>
    cases h'
    exact .refl false _
  | model hmodel =>
    cases h' with
    | model hmodel' => exact hmodels _ _ _ hmodel hmodel'

/-- The fragments of a target with its candidates in two orders have the same shape. -/
theorem Target.HasFragment.alike (hmodels : AlikeModels models models') {t t' : Target τ}
    (hperm : t.toList.Perm t'.toList) (h : t.HasFragment models fragment)
    (h' : t'.HasFragment models' fragment') :
    Alike false (.object fragment) (.object fragment') := by
  cases h with
  | only honly hfirst =>
    cases h' with
    | only honly' hfirst' =>
      rw [honly, honly', List.perm_singleton, List.cons.injEq] at hperm
      exact hfirst.alike hmodels (hperm.1 ▸ hfirst')
    | choice hmany _ => exact absurd (by rw [← hperm.length_eq, honly]; rfl) hmany
  | @choice fragments hmany hall =>
    cases h' with
    | only honly' _ => exact absurd (by rw [hperm.length_eq, honly']; rfl) hmany
    | @choice fragments' _ hall' =>
      -- The right branches are put into the order of the left candidates.
      obtain ⟨paired, hpaired, hperm'⟩ := List.perm_comp_forall₂ hperm hall'
      have hbranches : List.Forall₂
          (fun fragment fragment' => Alike false (.object fragment) (.object fragment'))
          fragments paired :=
        forall₂_trans_of_mem hall.flip hpaired fun _ _ _ _ hfragment hfragment' =>
          hfragment.alike hmodels hfragment'
      have hrel : Multiset.Rel (Alike false) (fragments.map Json.object : List Json)
          (fragments'.map Json.object : List Json) := by
        rw [rel_iff_exists_perm]
        refine ⟨paired.map .object, hperm'.map _, ?_⟩
        rwa [List.forall₂_map_left_iff, List.forall₂_map_right_iff]
      exact .cons (.unordered hrel) (.refl false _)

/-- The fragments of a shape with its candidates in two orders have the same shape. -/
theorem Shape.Rearranged.alike (hmodels : AlikeModels models models') {s s' : Shape τ}
    (hs : s.Rearranged s') (h : s.HasFragment models fragment)
    (h' : s'.HasFragment models' fragment') :
    Alike false (.object fragment) (.object fragment') := by
  cases hs with
  | scalar kind =>
    cases h
    cases h'
    exact .refl false _
  | embedded hperm =>
    cases h with
    | embedded ht =>
      cases h' with
      | embedded ht' => exact ht.alike hmodels hperm ht'
  | list hperm =>
    cases h with
    | @list _ items ht =>
      cases h' with
      | @list _ items' ht' =>
        have hitems : Alike false (.object items) (.object items') := ht.alike hmodels hperm ht'
        exact .cons (.refl _ _) (.cons hitems (.refl false _))

/-- The fragments of a field with its candidates in two orders have the same shape. -/
theorem Field.Rearranged.alike (hmodels : AlikeModels models models') {f f' : Field τ}
    (hf : f.Rearranged f') (h : f.HasFragment models fragment)
    (h' : f'.HasFragment models' fragment') :
    Alike false (.object fragment) (.object fragment') := by
  obtain ⟨base, hbase, rfl⟩ := h
  obtain ⟨base', hbase', rfl⟩ := h'
  rw [← hf.validators]
  exact (hf.shape.alike hmodels hbase hbase').contribute f.validators

/-- The properties of fields have the same shape, in whatever order the fields are. -/
theorem HasProperties.alike {models models' : String → ModelKey τ → Fragment → Prop}
    (hmodels : ∀ field, AlikeModels (models field) (models' field))
    {fields fields' : OrderedMap (Field τ)} {all all' : OrderedMap Json}
    (hfields : OrderedMap.Related (fun _ => Field.Rearranged) fields fields')
    (hnodup : (OrderedMap.names fields).Nodup) (hnodup' : (OrderedMap.names fields').Nodup)
    (h : HasProperties models fields all) (h' : HasProperties models' fields' all') :
    Alike false (.object all) (.object all') := by
  obtain ⟨hnames, hvalues⟩ := OrderedMap.related_iff.mp hfields
  rw [Alike.object_iff, OrderedMap.related_iff, h.names_eq, h'.names_eq]
  refine ⟨hnames, fun name property property' hproperty hproperty' => ?_⟩
  obtain ⟨⟨_, f⟩, hf, rfl, fragment, rfl, hfragment⟩ :=
    exists_partner_of_mem_right h (OrderedMap.mem_of_value? hproperty)
  obtain ⟨⟨_, f'⟩, hf', rfl, fragment', rfl, hfragment'⟩ :=
    exists_partner_of_mem_right h' (OrderedMap.mem_of_value? hproperty')
  rw [← OrderedMap.value?_eq_some_iff hnodup] at hf
  rw [← OrderedMap.value?_eq_some_iff hnodup'] at hf'
  exact ((hvalues _ f f' hf hf').alike (hmodels _) hfragment hfragment').of_object

end Fragments

/-! ## Documents -/

namespace Registry

variable {r r' : Registry τ}

/-- Which names are required, under distinct names. -/
theorem mem_requiredNames_iff (hnodup : r.fieldNames.Nodup) {name : String} :
    name ∈ r.requiredNames ↔
      ∃ f, OrderedMap.value? r.fields name = some f ∧ f.required = true := by
  simp only [OrderedMap.value?_eq_some_iff hnodup]
  simp [requiredNames]

namespace Rearranged

/-- The same names are required. -/
theorem requiredNames_perm (h : r.Rearranged r') (hnodup : r.fieldNames.Nodup)
    (hnodup' : r'.fieldNames.Nodup) : r.requiredNames.Perm r'.requiredNames := by
  have hdistinct : ∀ {r : Registry τ}, r.fieldNames.Nodup → r.requiredNames.Nodup :=
    fun hnodup => hnodup.sublist (List.filter_sublist.map _)
  obtain ⟨hnames, hvalues⟩ := OrderedMap.related_iff.mp h.fields
  rw [List.perm_ext_iff_of_nodup (hdistinct hnodup) (hdistinct hnodup')]
  intro name
  rw [mem_requiredNames_iff hnodup, mem_requiredNames_iff hnodup']
  constructor
  · rintro ⟨f, hf, hrequired⟩
    obtain ⟨f', hf', hrearranged⟩ := h.fields.exists_value? hf
    exact ⟨f', hf', hrearranged.required ▸ hrequired⟩
  · rintro ⟨f', hf', hrequired⟩
    obtain ⟨f, hf⟩ := OrderedMap.exists_value?_of_name_mem
      ((hnames name).mpr (OrderedMap.name_mem_of_mem (OrderedMap.mem_of_value? hf')))
    exact ⟨f, hf, (hvalues name f f' hf hf').required ▸ hrequired⟩

/-- The documents of models with the same fields have the same shape if the properties have. -/
theorem alike_assemble (h : r.Rearranged r') (hnodup : r.fieldNames.Nodup)
    (hnodup' : r'.fieldNames.Nodup) {properties properties' : OrderedMap Json}
    (hproperties : Json.Alike false (.object properties) (.object properties')) :
    Json.Alike false (.object (r.assemble properties)) (.object (r'.assemble properties')) := by
  have hperm := h.requiredNames_perm hnodup hnodup'
  have hany : r.fields.any (·.2.required) = r'.fields.any (·.2.required) := by
    rw [Bool.eq_iff_iff, ← requiredNames_ne_nil_iff, ← requiredNames_ne_nil_iff, Ne, Ne,
      ← List.isEmpty_iff, ← List.isEmpty_iff, hperm.isEmpty_eq]
  rw [assemble, assemble, hany]
  refine .cons (.refl _ _) (.cons hproperties ?_)
  split
  · exact .cons (.strings_of_perm hperm) (.refl false _)
  · exact .refl false _

/-- A model mentions the same models in whatever order its fields and candidates are. -/
theorem mentions (h : r.Rearranged r') (hnodup : r.fieldNames.Nodup) {field : String}
    {key : ModelKey τ} (hmentions : r.Mentions field key) : r'.Mentions field key := by
  obtain ⟨f, t, hf, ht, hkey⟩ := hmentions
  obtain ⟨f', hf', hrearranged⟩ :=
    h.fields.exists_value? ((OrderedMap.value?_eq_some_iff hnodup).mpr hf)
  obtain ⟨t', ht', hperm⟩ := hrearranged.shape.exists_target? ht
  exact ⟨f', t', OrderedMap.mem_of_value? hf', ht', hperm.mem_iff.mp hkey⟩

end Rearranged
end Registry

/-! ## Catalogs -/

namespace Catalog

variable {c c' : Catalog τ}

/-- A catalog has the same names. -/
theorem Rearranged.mem_names (h : c.Rearranged c') {name : String} (hname : name ∈ c.names) :
    name ∈ c'.names := by
  obtain ⟨r, hr⟩ := exists_get?_of_mem_names hname
  obtain ⟨r', hr', -⟩ := h.exists_get? hr
  obtain ⟨hmem, rfl⟩ := of_findNamed hr'
  exact List.mem_map_of_mem hmem

variable {m m' : Manifest}

/-- A model embeds the same models. -/
theorem Rearranged.embeds (h : c.Rearranged c') (hc : ofManifest m = .ok c)
    {model target : String} (hembeds : c.Embeds model target) : c'.Embeds model target := by
  obtain ⟨r, field, hr, hmentions⟩ := hembeds
  obtain ⟨r', hr', hrel⟩ := h.exists_get? hr
  exact ⟨r', field, hr', hrel.mentions (nodup_fieldNames_of_get? hc hr) hmentions⟩

theorem Rearranged.embeds_eq (h : c.Rearranged c') (hc : ofManifest m = .ok c)
    (hc' : ofManifest m' = .ok c') : c'.Embeds = c.Embeds := by
  ext model target
  exact ⟨h.symm.embeds hc', h.embeds hc⟩

variable [DecidableEq τ] {family : Family τ}

/-- A model with a schema has one in a catalog with the same models. -/
theorem Rearranged.exists_compileNamed (h : c.Rearranged c') (hc : ofManifest m = .ok c)
    (hc' : ofManifest m' = .ok c') {name : String}
    (hcompile : ∃ schema, Scope.compileNamed ⟨family, some c⟩ name = .ok schema) :
    ∃ schema, Scope.compileNamed ⟨family, some c'⟩ name = .ok schema := by
  obtain ⟨schema, hschema⟩ := hcompile
  obtain ⟨r, hr⟩ := exists_get?_of_compileNamed hschema
  obtain ⟨r', hr', hrel⟩ := h.exists_get? hr
  rw [compileNamed_of_get? hr, map_eq_ok_iff] at hschema
  obtain ⟨document, hexpand, -⟩ := hschema
  obtain ⟨-, rfl⟩ := of_findNamed hr
  obtain ⟨hclosed, hacc⟩ := closed_and_acc_of_expand_eq_ok hr hexpand
  have hclosed' : c'.Closed r'.name := by
    unfold Closed
    rw [h.embeds_eq hc hc', ← hrel.name]
    intro model target hreach hembeds
    exact h.mem_names (hclosed model target hreach hembeds)
  have hacyclic' : c'.Acyclic r'.name := by
    unfold Acyclic
    rw [h.embeds_eq hc hc', ← hrel.name]
    exact acyclic_of_acc hacc
  have hself : c'.get? r'.name = some r' := hrel.name ▸ hr'
  obtain ⟨document', hexpand'⟩ :
      ∃ document', Scope.expand ⟨family, some c'⟩ [] r' = .ok document' :=
    exists_expand_eq_ok (named_of_ofManifest hc') hself hclosed' hacyclic'
  refine ⟨.object document', ?_⟩
  rw [compileNamed_of_get? hr', hexpand']
  rfl

/-- The documents of a model in catalogs with the same models have the same shape. -/
theorem Rearranged.alike_of_expand (h : c.Rearranged c') (hc : ofManifest m = .ok c)
    (hc' : ofManifest m' = .ok c') {r r' : Registry τ} {document document' : Fragment}
    (hr : c.get? r.name = some r) (hexpand : Scope.expand ⟨family, some c⟩ [] r = .ok document)
    (hr' : c'.get? r.name = some r')
    (hexpand' : Scope.expand ⟨family, some c'⟩ [] r' = .ok document') :
    Json.Alike false (.object document) (.object document') := by
  refine compiled_induction (motive := fun r document => ∀ r' document',
    c'.get? r.name = some r' → Scope.expand ⟨family, some c'⟩ [] r' = .ok document' →
      Json.Alike false (.object document) (.object document')) hc ?_ hr hexpand r' document' hr'
        hexpand'
  rintro r document hr ⟨properties, hproperties, rfl⟩ r' document' hr' hexpand'
  obtain ⟨found, hfound, hrel⟩ := h.exists_get? hr
  obtain rfl : r' = found := by simpa [hr'] using hfound
  have hnodup : r.fieldNames.Nodup := nodup_fieldNames_of_get? hc hr
  have hnodup' : r'.fieldNames.Nodup := nodup_fieldNames_of_get? hc' hr'
  have hself : c'.get? r'.name = some r' := hrel.name ▸ hr'
  obtain ⟨properties', hproperties', rfl⟩ :=
    (expand_eq_ok_iff_hasDocument (named_of_ofManifest hc') hself hnodup').mp hexpand'
  refine hrel.alike_assemble hnodup hnodup'
    (hproperties.alike (fun field => ?_) hrel.fields hnodup hnodup' hproperties')
  rintro key mentioned mentioned' ⟨next, rfl, -, -, halike⟩ hmentioned'
  obtain ⟨next', hnext', hexpand''⟩ := compiled_named_iff.mp hmentioned'
  exact halike next' mentioned' hnext' hexpand''

/-- A manifest with its models, the fields of each model and the candidates of each target in
another order has a catalog, too.  Each name has a schema in both catalogs or in neither, and the
comparison takes the two schemas to be the same. -/
theorem sameShape_of_rearranged (hm : m.Rearranged m') (hc : ofManifest m = .ok c) :
    ∃ c' : Catalog τ, ofManifest m' = .ok c' ∧ ∀ (family : Family τ) (name : String),
      ((∃ schema, Scope.compileNamed ⟨family, some c⟩ name = .ok schema) ↔
        ∃ schema, Scope.compileNamed ⟨family, some c'⟩ name = .ok schema) ∧
      ∀ schema schema', Scope.compileNamed ⟨family, some c⟩ name = .ok schema →
        Scope.compileNamed ⟨family, some c'⟩ name = .ok schema' →
          Json.sameShape schema schema' = true := by
  obtain ⟨c', hc', h⟩ := exists_rearranged hm hc
  refine ⟨c', hc', fun family name => ⟨⟨?_, ?_⟩, fun schema schema' hschema hschema' => ?_⟩⟩
  · exact h.exists_compileNamed hc hc'
  · exact h.symm.exists_compileNamed hc' hc
  · have hdistinct : schema.Distinct := (emitted_of_compileNamed hc hschema).distinct
    have hdistinct' : schema'.Distinct := (emitted_of_compileNamed hc' hschema').distinct
    rw [Json.sameShape_iff hdistinct hdistinct']
    obtain ⟨r, hr⟩ := exists_get?_of_compileNamed hschema
    obtain ⟨r', hr'⟩ := exists_get?_of_compileNamed hschema'
    obtain ⟨-, rfl⟩ := of_findNamed hr
    rw [compileNamed_of_get? hr, map_eq_ok_iff] at hschema
    rw [compileNamed_of_get? hr', map_eq_ok_iff] at hschema'
    obtain ⟨document, hexpand, rfl⟩ := hschema
    obtain ⟨document', hexpand', rfl⟩ := hschema'
    exact h.alike_of_expand hc hc' hr hexpand hr' hexpand'

/-- A ticket has a title and an owner, and once it is answered also answers. -/
def tickets : Manifest :=
  ⟨[⟨"ticket", none, [⟨"title", "string", true, none, []⟩,
      ⟨"owner", "embedded", true, some (.many ["person", "string"]), []⟩]⟩,
    ⟨"answered", some "ticket",
      [⟨"answers", "list", false, some (.many ["string", "person", "ticket"]), []⟩]⟩,
    ⟨"person", none, [⟨"name", "string", true, none, [.length 1 none]⟩]⟩]⟩

/-- Tickets in another order. -/
def sortedTickets : Manifest :=
  ⟨[⟨"ticket", none, [⟨"owner", "embedded", true, some (.many ["string", "person"]), []⟩,
      ⟨"title", "string", true, none, []⟩]⟩,
    ⟨"answered", some "ticket",
      [⟨"answers", "list", false, some (.many ["person", "string", "ticket"]), []⟩]⟩,
    ⟨"person", none, [⟨"name", "string", true, none, [.length 1 none]⟩]⟩]⟩

/-- The models of tickets. -/
def ticketsCatalog : Catalog Empty :=
  let title : String × Field Empty := ("title", ⟨.scalar .string, true, []⟩)
  let owner : String × Field Empty :=
    ("owner", ⟨.embedded (.candidates [.model (.named "person"), .primitive .string]), true, []⟩)
  ⟨[⟨"ticket", .named "ticket", [title, owner]⟩,
    ⟨"answered", .named "answered", [title, owner, ("answers", ⟨.list (.candidates
      [.primitive .string, .model (.named "person"), .model (.named "ticket")]), false, []⟩)]⟩,
    ⟨"person", .named "person", [("name", ⟨.scalar .string, true, [.length 1 none]⟩)]⟩]⟩

/-- The models of tickets in another order. -/
def sortedTicketsCatalog : Catalog Empty :=
  let title : String × Field Empty := ("title", ⟨.scalar .string, true, []⟩)
  let owner : String × Field Empty :=
    ("owner", ⟨.embedded (.candidates [.primitive .string, .model (.named "person")]), true, []⟩)
  ⟨[⟨"ticket", .named "ticket", [owner, title]⟩,
    ⟨"answered", .named "answered", [owner, title, ("answers", ⟨.list (.candidates
      [.model (.named "person"), .primitive .string, .model (.named "ticket")]), false, []⟩)]⟩,
    ⟨"person", .named "person", [("name", ⟨.scalar .string, true, [.length 1 none]⟩)]⟩]⟩

theorem ofManifest_tickets : ofManifest tickets = .ok ticketsCatalog := by
  cbv

theorem ofManifest_sortedTickets : ofManifest sortedTickets = .ok sortedTicketsCatalog := by
  cbv

theorem rearranged_tickets : tickets.Rearranged sortedTickets := by
  have htitle : FieldEntry.Rearranged ⟨"title", "string", true, none, []⟩
      ⟨"title", "string", true, none, []⟩ :=
    ⟨rfl, rfl, rfl, .none, rfl⟩
  have howner : FieldEntry.Rearranged
      ⟨"owner", "embedded", true, some (.many ["person", "string"]), []⟩
      ⟨"owner", "embedded", true, some (.many ["string", "person"]), []⟩ :=
    ⟨rfl, rfl, rfl, .some (.many (by decide)), rfl⟩
  have hanswers : FieldEntry.Rearranged
      ⟨"answers", "list", false, some (.many ["string", "person", "ticket"]), []⟩
      ⟨"answers", "list", false, some (.many ["person", "string", "ticket"]), []⟩ :=
    ⟨rfl, rfl, rfl, .some (.many (by decide)), rfl⟩
  have hname : FieldEntry.Rearranged ⟨"name", "string", true, none, [.length 1 none]⟩
      ⟨"name", "string", true, none, [.length 1 none]⟩ :=
    ⟨rfl, rfl, rfl, .none, rfl⟩
  refine rel_iff_exists_perm.mpr ⟨_, .refl _, .cons ?_ (.cons ?_ (.cons ?_ .nil))⟩
  · exact ⟨rfl, rfl, rel_iff_exists_perm.mpr ⟨_, .swap _ _ _, .cons htitle (.cons howner .nil)⟩⟩
  · exact ⟨rfl, rfl, rel_iff_exists_perm.mpr ⟨_, .refl _, .cons hanswers .nil⟩⟩
  · exact ⟨rfl, rfl, rel_iff_exists_perm.mpr ⟨_, .refl _, .cons hname .nil⟩⟩

/-- An answered ticket has a schema in either order, and the two schemas compare. -/
theorem sameShape_answered :
    ∃ schema schema', Scope.compileNamed ⟨.none, some ticketsCatalog⟩ "answered" = .ok schema ∧
      Scope.compileNamed ⟨.none, some sortedTicketsCatalog⟩ "answered" = .ok schema' ∧
      Json.sameShape schema schema' = true := by
  obtain ⟨c', hc', hall⟩ := sameShape_of_rearranged rearranged_tickets ofManifest_tickets
  obtain rfl : sortedTicketsCatalog = c' := by simpa [ofManifest_sortedTickets] using hc'
  obtain ⟨hcompiles, hsame⟩ := hall .none "answered"
  have hschema : ∃ schema,
      Scope.compileNamed ⟨.none, some ticketsCatalog⟩ "answered" = .ok schema :=
    ⟨_, by cbv⟩
  obtain ⟨schema', hschema'⟩ := hcompiles.mp hschema
  obtain ⟨schema, hschema⟩ := hschema
  exact ⟨schema, schema', hschema, hschema', hsame schema schema' hschema hschema'⟩

end Catalog
end ModelSchema
