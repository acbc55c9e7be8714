import ModelSchema.Proofs.Schema.Draft4.Assembled

/-!
# Children in the place of their ancestors

A model that extends others and declares none of their fields again has the fields of each ancestor
at the front of its own, unchanged.  Its schema therefore starts with the properties of the
ancestor, and whatever conforms to the model conforms to the ancestor.

Main results:

- Theorem `Manifest.Resolves.exists_fields_eq_append`: the fields of an ancestor stand in front.
- Theorem `Draft4.isValid_assemble_append`: more fields admit fewer values.
- Theorem `Catalog.substitutable_of_ofManifest`: a child conforms wherever its ancestor does.
-/

namespace ModelSchema

variable {τ : Type}

/-! ## Fields of ancestors -/

namespace Manifest

variable {m : Manifest}

/-- A line ends with the model that it is the line of. -/
theorem Lineage.exists_eq_concat {line : List ModelEntry} {entry : ModelEntry}
    (h : m.Lineage line entry) : ∃ ancestors, line = ancestors ++ [entry] := by
  cases h with
  | root _ => exact ⟨[], rfl⟩
  | child _ _ _ => exact ⟨_, rfl⟩

/-- The models of a line are declared if its last one is. -/
theorem Lineage.mem_models {line : List ModelEntry} {entry : ModelEntry}
    (h : m.Lineage line entry) (hentry : entry ∈ m.models) : ∀ model ∈ line, model ∈ m.models := by
  induction h with
  | root _ => simpa using hentry
  | child _ hnext _ ih =>
    rw [List.forall_mem_append, List.forall_mem_singleton]
    exact ⟨ih (of_findNamed hnext).1, hentry⟩

/-- If no model below an ancestor declares a field of the ancestor again, the fields of the ancestor
stand in front of all others. -/
theorem Resolves.exists_fields_eq_append {before below : List ModelEntry}
    {ancestor entry : ModelEntry} (hline : m.Lineage (before ++ ancestor :: below) entry)
    {r p : Registry τ} (h : m.Resolves entry r) (hp : m.Resolves ancestor p)
    (hnew : ∀ model ∈ below, ∀ name ∈ model.fieldNames, name ∉ p.fieldNames) :
    ∃ others, r.fields = p.fields ++ others := by
  -- The line is taken apart from its end, where the models below the ancestor stand.
  induction below using List.reverseRecOn generalizing entry r with
  | nil =>
    obtain ⟨ancestors, hends⟩ := hline.exists_eq_concat
    obtain ⟨-, heq⟩ := List.append_inj' hends rfl
    obtain rfl : ancestor = entry := by simpa using heq
    obtain rfl := h.unique hp
    exact ⟨[], (List.append_nil _).symm⟩
  | append_singleton below last ih =>
    rw [List.forall_mem_append, List.forall_mem_singleton] at hnew
    generalize hwhole : before ++ ancestor :: (below ++ [last]) = line at hline
    rw [← List.cons_append, ← List.append_assoc] at hwhole
    cases hline with
    | root _ =>
      have hlength := congrArg List.length hwhole
      simp at hlength
      omega
    | child hparent hnext hline =>
      obtain ⟨rfl, heq⟩ := List.append_inj' hwhole rfl
      obtain rfl : last = entry := by simpa using heq
      obtain ⟨q, own, hq, hown, -, hfields⟩ := h.fields_of_child hparent hnext
      obtain ⟨others, hothers⟩ := ih hline hq hnew.1
      refine ⟨OrderedMap.putAll others own, ?_⟩
      have hnames : ∀ name ∈ OrderedMap.names own, name ∉ OrderedMap.names p.fields := by
        rw [hown.names_eq]
        exact hnew.2
      rw [hfields, hothers, OrderedMap.putAll_append hnames]

end Manifest

/-! ## Properties of ancestors -/

/-- The properties of fields that stand in front stand in front. -/
theorem HasProperties.exists_append {models : String → ModelKey τ → Fragment → Prop}
    {fields others : OrderedMap (Field τ)} {all : OrderedMap Json}
    (h : HasProperties models (fields ++ others) all) :
    ∃ front rest, all = front ++ rest ∧ HasProperties models fields front := by
  refine ⟨all.take fields.length, all.drop fields.length, (List.take_append_drop _ _).symm, ?_⟩
  exact (List.forall₂_take_append _ _ _ h.flip).flip

/-- What an object with more fields requires includes what it requires with some of them. -/
theorem Registry.mem_requiredNames_of_fields_eq_append {r p : Registry τ}
    {others : OrderedMap (Field τ)} (hfields : r.fields = p.fields ++ others) {name : String}
    (hname : name ∈ p.requiredNames) : name ∈ r.requiredNames := by
  rw [requiredNames, hfields, List.filter_append, List.map_append]
  exact List.mem_append_left _ hname

namespace Draft4

/-- What conforms to a model conforms to a model with only the first of its fields. -/
theorem isValid_assemble_append {r p : Registry τ} {others : OrderedMap (Field τ)}
    (hfields : r.fields = p.fields ++ others) {front rest : OrderedMap Json}
    (hfree : ReferenceFree (.object (r.assemble (front ++ rest))))
    (hfree' : ReferenceFree (.object (p.assemble front))) {value : Json}
    (h : isValid (.object (r.assemble (front ++ rest))) value = true) :
    isValid (.object (p.assemble front)) value = true := by
  rw [isValid_assemble_iff hfree] at h
  obtain ⟨members, rfl, hrequired, hproperties⟩ := h
  rw [isValid_assemble_iff hfree']
  refine ⟨members, rfl, fun name hname => ?_, fun name property hproperty => ?_⟩
  · exact hrequired name (Registry.mem_requiredNames_of_fields_eq_append hfields hname)
  · exact hproperties name property (List.mem_append_left _ hproperty)

end Draft4

/-! ## Catalogs -/

namespace Catalog

open Draft4 Manifest

variable [DecidableEq τ] {c : Catalog τ}

/-- A model takes the place of each of its ancestors of which it inherits all fields unchanged, that
is, if no model below the ancestor declares one of them again: if the model compiles, the ancestor
does, the properties of the model begin with those of the ancestor, and each document that conforms
to the model conforms to the ancestor. -/
theorem substitutable_of_ofManifest {m : Manifest} (hc : ofManifest m = .ok c)
    {child ancestor : ModelEntry} (hchild : child ∈ m.models) {before below : List ModelEntry}
    (hline : m.Lineage (before ++ ancestor :: below) child) {p : Registry τ}
    (hp : c.get? ancestor.name = some p)
    (hnew : ∀ model ∈ below, ∀ name ∈ model.fieldNames, name ∉ p.fieldNames) (family : Family τ)
    {schema : Json} (hcompile : Scope.compileNamed ⟨family, some c⟩ child.name = .ok schema) :
    ∃ schema', Scope.compileNamed ⟨family, some c⟩ ancestor.name = .ok schema' ∧
      (∃ properties others, schema'.member? "properties" = some (.object properties) ∧
        schema.member? "properties" = some (.object (properties ++ others))) ∧
      ∀ document, isValid schema document = true → isValid schema' document = true := by
  have hresolves : ∀ {entry : ModelEntry} {r : Registry τ}, entry ∈ m.models →
      c.get? entry.name = some r → m.Resolves entry r := by
    intro entry r hentry hr
    obtain ⟨found, hfind, hfound⟩ := (get?_eq_some_iff hc).mp hr
    have hself : m.find? entry.name = some entry :=
      findNamed_of_mem (resolves_of_ofManifest hc).1 hentry
    rw [hself, Option.some.injEq] at hfind
    rwa [hfind]
  have hancestor : ancestor ∈ m.models := hline.mem_models hchild ancestor (by simp)
  obtain ⟨r, properties, hr, rfl, -, hproperties, hfree⟩ :=
    hasProperties_of_compileNamed hc hcompile
  obtain ⟨others, hfields⟩ :=
    (hresolves hchild hr).exists_fields_eq_append hline (hresolves hancestor hp) hnew
  rw [hfields] at hproperties
  obtain ⟨front, rest, rfl, hfront⟩ := hproperties.exists_append
  -- The properties in front are what the schema of the ancestor is made of.
  have hself : c.get? p.name = some p := (of_findNamed hp).2 ▸ hp
  have hexpand : Scope.expand ⟨family, some c⟩ [] p = .ok (p.assemble front) :=
    (expand_eq_ok_iff_hasDocument (named_of_ofManifest hc) hself
      (nodup_fieldNames_of_get? hc hp)).mpr ⟨front, hfront, rfl⟩
  have hcompile' : Scope.compileNamed ⟨family, some c⟩ ancestor.name =
      .ok (.object (p.assemble front)) := by
    rw [compileNamed_of_get? hp, hexpand]
    rfl
  obtain ⟨_, _, -, -, -, -, hfree'⟩ := hasProperties_of_compileNamed hc hcompile'
  refine ⟨_, hcompile', ⟨front, rest, rfl, rfl⟩, fun document hdocument => ?_⟩
  exact isValid_assemble_append hfields hfree hfree' hdocument

/-- A person has a name and a home. -/
def person : ModelEntry :=
  ⟨"person", none, [⟨"name", "string", true, none, []⟩,
    ⟨"home", "embedded", false, some (.one "address"), []⟩]⟩

/-- An employee is a person with a badge that has a number. -/
def employee : ModelEntry := ⟨"employee", some "person", [⟨"badge", "int", true, none, []⟩]⟩

/-- A manager is an employee with reports, and with a badge that has a text. -/
def manager : ModelEntry :=
  ⟨"manager", some "employee", [⟨"reports", "list", false, some (.one "person"), []⟩,
    ⟨"badge", "string", true, none, []⟩]⟩

/-- People at work, each model before its parent. -/
def staff : Manifest :=
  ⟨[manager, employee, person, ⟨"address", none, [⟨"street", "string", true, none, []⟩]⟩]⟩

/-- The models of people at work. -/
def staffCatalog : Catalog Empty :=
  let name : String × Field Empty := ("name", ⟨.scalar .string, true, []⟩)
  let home : String × Field Empty :=
    ("home", ⟨.embedded (.single (.model (.named "address"))), false, []⟩)
  ⟨[⟨"manager", .named "manager", [name, home, ("badge", ⟨.scalar .string, true, []⟩),
      ("reports", ⟨.list (.single (.model (.named "person"))), false, []⟩)]⟩,
    ⟨"employee", .named "employee", [name, home, ("badge", ⟨.scalar .int, true, []⟩)]⟩,
    ⟨"person", .named "person", [name, home]⟩,
    ⟨"address", .named "address", [("street", ⟨.scalar .string, true, []⟩)]⟩]⟩

theorem ofManifest_staff : ofManifest staff = .ok staffCatalog := by
  cbv

theorem lineage_manager : staff.Lineage [person, employee, manager] manager :=
  .child rfl (by decide) (.child rfl (by decide) (.root rfl))

/-- A manager who lives somewhere, without reports. -/
def managerRecord : Json :=
  .object [("badge", .string "M1"), ("name", .string "Ida"),
    ("home", .object [("street", .string "High Street")])]

/-- The record of a manager is also that of a person, though managers have other badges than the
employees in between. -/
theorem isValid_managerRecord :
    ∃ schema, Scope.compileNamed ⟨.none, some staffCatalog⟩ "person" = .ok schema ∧
      isValid schema managerRecord = true := by
  obtain ⟨schema, hcompile, hvalid⟩ : ∃ schema,
      Scope.compileNamed ⟨.none, some staffCatalog⟩ manager.name = .ok schema ∧
        isValid schema managerRecord = true :=
    ⟨_, by cbv, by decide +kernel⟩
  have hline : staff.Lineage ([] ++ person :: [employee, manager]) manager := lineage_manager
  obtain ⟨schema', hcompile', -, hconforms⟩ :=
    substitutable_of_ofManifest ofManifest_staff (by decide) hline rfl (by decide) .none hcompile
  exact ⟨schema', hcompile', hconforms managerRecord hvalid⟩

end Catalog
end ModelSchema
