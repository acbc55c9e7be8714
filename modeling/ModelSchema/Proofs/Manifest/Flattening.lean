import ModelSchema.Proofs.Manifest.Inheritance

/-!
# Inheritance flattened

The registry of a model is built from that of its parent, which was built from that of its own
parent, and so on.  Put together, this is one rule for the whole line of ancestors: the fields
stand where their names were first declared, counted from the root, and each has the form that the
last model declared that mentions its name.  Which registries were built before makes no difference.

Main results:

- Theorem `Manifest.Resolves.get?_eq_some_iff`: the last declaration of a name gives its field.
- Theorem `Manifest.Resolves.fieldNames_eq`: names stand where they were first declared.
- Theorem `Catalog.flattened_of_ofManifest`: the registries of a catalog, flattened.
-/

namespace ModelSchema

variable {τ : Type}

/-- The names of the fields that a model declares itself. -/
def ModelEntry.fieldNames (entry : ModelEntry) : List String := entry.fields.map (·.name)

namespace Manifest

/-! ## Lines of ancestors -/

/-- The models that lead to a model, from a root on, of which each extends the one before it. -/
inductive Lineage (m : Manifest) : List ModelEntry → ModelEntry → Prop where
  | root {entry : ModelEntry} (hparent : entry.parent = none) : m.Lineage [entry] entry
  | child {line : List ModelEntry} {entry next : ModelEntry} {parent : String}
      (hparent : entry.parent = some parent) (hnext : m.find? parent = some next)
      (hline : m.Lineage line next) : m.Lineage (line ++ [entry]) entry

/-- A field as the last model of a line declares it that declares its name. -/
def LastDeclared (line : List ModelEntry) (written : FieldEntry) : Prop :=
  ∃ before entry after, line = before ++ entry :: after ∧ written ∈ entry.fields ∧
    ∀ later ∈ after, written.name ∉ later.fieldNames

/-- Nothing is declared by no models. -/
theorem not_lastDeclared_nil {written : FieldEntry} : ¬ LastDeclared [] written := by
  rintro ⟨before, entry, after, hline, -⟩
  simp at hline

/-- What is declared last in a line is declared by its last model, or before that model, which then
does not declare the name. -/
theorem lastDeclared_append_singleton {line : List ModelEntry} {entry : ModelEntry}
    {written : FieldEntry} :
    LastDeclared (line ++ [entry]) written ↔
      written ∈ entry.fields ∨ LastDeclared line written ∧ written.name ∉ entry.fieldNames := by
  constructor
  · rintro ⟨before, model, after, hline, hmem, hlater⟩
    rcases List.eq_nil_or_concat' after with rfl | ⟨init, last, rfl⟩
    · obtain ⟨-, heq⟩ := List.append_inj' hline rfl
      obtain rfl : entry = model := by simpa using heq
      exact .inl hmem
    · rw [← List.cons_append, ← List.append_assoc] at hline
      obtain ⟨rfl, heq⟩ := List.append_inj' hline rfl
      obtain rfl : entry = last := by simpa using heq
      rw [List.forall_mem_append] at hlater
      exact .inr ⟨⟨before, model, init, rfl, hmem, hlater.1⟩, hlater.2 entry (by simp)⟩
  · rintro (hmem | ⟨⟨before, model, after, rfl, hmem, hlater⟩, hnot⟩)
    · exact ⟨line, entry, [], rfl, hmem, by simp⟩
    · refine ⟨before, model, after ++ [entry], by simp, hmem, ?_⟩
      rw [List.forall_mem_append]
      exact ⟨hlater, by simpa using hnot⟩

/-! ## Own fields -/

/-- Under distinct names, the field with a name is the one that the entry of that name becomes. -/
theorem BuiltFields.value?_eq_some_iff {entries : List FieldEntry} {fields : OrderedMap (Field τ)}
    (h : BuiltFields entries fields) (hnodup : (OrderedMap.names fields).Nodup) {name : String}
    {f : Field τ} :
    OrderedMap.value? fields name = some f ↔
      ∃ written ∈ entries, written.name = name ∧ written.build = .ok f := by
  rw [OrderedMap.value?_eq_some_iff hnodup]
  constructor
  · intro hmem
    obtain ⟨written, hwritten, hname, hbuild⟩ := exists_partner_of_mem_right h hmem
    exact ⟨written, hwritten, hname.symm, hbuild⟩
  · rintro ⟨written, hwritten, rfl, hbuild⟩
    obtain ⟨⟨name, g⟩, hmem, hname, hbuild'⟩ := exists_partner_of_mem_left h hwritten
    rw [hbuild, Except.ok.injEq] at hbuild'
    rwa [← hname, hbuild'] at *

/-- A model without a parent has its own fields. -/
theorem Resolves.fields_of_root {m : Manifest} {entry : ModelEntry} {r : Registry τ}
    (h : m.Resolves entry r) (hparent : entry.parent = none) :
    ∃ own, BuiltFields entry.fields own ∧ (OrderedMap.names own).Nodup ∧
      r.fields = OrderedMap.putAll [] own := by
  cases h with
  | root _ hresolve =>
    obtain ⟨own, hown, hbuild⟩ := resolve_eq_ok_iff.mp hresolve
    obtain ⟨-, hnodup, -, rfl⟩ := Declaration.build_eq_ok_iff.mp hbuild
    exact ⟨own, hown, hnodup, rfl⟩
  | child hsome _ _ _ => simp [hparent] at hsome

/-- A model with a parent has its own fields written over those of the parent. -/
theorem Resolves.fields_of_child {m : Manifest} {entry next : ModelEntry} {parent : String}
    {r : Registry τ} (h : m.Resolves entry r) (hparent : entry.parent = some parent)
    (hnext : m.find? parent = some next) :
    ∃ p own, m.Resolves next p ∧ BuiltFields entry.fields own ∧ (OrderedMap.names own).Nodup ∧
      r.fields = OrderedMap.putAll p.fields own := by
  cases h with
  | root hnone _ => simp [hparent] at hnone
  | @child _ next' parent' p _ hsome hnext' hp hresolve =>
    obtain rfl : parent = parent' := by simpa [hparent] using hsome
    obtain rfl : next = next' := by simpa [hnext] using hnext'
    obtain ⟨own, hown, hbuild⟩ := resolve_eq_ok_iff.mp hresolve
    obtain ⟨-, hnodup, -, rfl⟩ := Declaration.build_eq_ok_iff.mp hbuild
    have hinherited : OrderedMap.putAll [] p.fields = p.fields :=
      OrderedMap.putAll_of_nodup hp.nodup_fieldNames (by simp)
    exact ⟨p, own, hp, hown, hnodup, by simp [Declaration.inherited, hinherited]⟩

/-! ## Flattened registries -/

/-- The fields of a model stand where their names were first declared. -/
theorem Resolves.fieldNames_eq {m : Manifest} {line : List ModelEntry} {entry : ModelEntry}
    (hline : m.Lineage line entry) {r : Registry τ} (h : m.Resolves entry r) :
    r.fieldNames = (line.flatMap (·.fieldNames)).eraseDups := by
  induction hline generalizing r with
  | @root entry hparent =>
    obtain ⟨own, hown, -, hfields⟩ := h.fields_of_root hparent
    have hnames : OrderedMap.names own = entry.fieldNames := hown.names_eq
    have hnil : OrderedMap.names ([] : OrderedMap (Field τ)) = ([] : List String).eraseDups := rfl
    rw [Registry.fieldNames, hfields, OrderedMap.names_putAll hnil, hnames]
    simp
  | @child line entry next parent hparent hnext _ ih =>
    obtain ⟨p, own, hp, hown, -, hfields⟩ := h.fields_of_child hparent hnext
    have hnames : OrderedMap.names own = entry.fieldNames := hown.names_eq
    rw [Registry.fieldNames, hfields, OrderedMap.names_putAll (ih hp), hnames]
    simp

/-- The field with a name has the form in which the last model of the line declares it that
declares its name. -/
theorem Resolves.get?_eq_some_iff {m : Manifest} {line : List ModelEntry} {entry : ModelEntry}
    (hline : m.Lineage line entry) {r : Registry τ} (h : m.Resolves entry r) {name : String}
    {f : Field τ} :
    r.get? name = some f ↔
      ∃ written, LastDeclared line written ∧ written.name = name ∧ written.build = .ok f := by
  induction hline generalizing r with
  | @root entry hparent =>
    obtain ⟨own, hown, hnodup, hfields⟩ := h.fields_of_root hparent
    rw [Registry.get?, hfields, OrderedMap.value?_putAll, OrderedMap.value?_reverse hnodup]
    rw [OrderedMap.value?_nil, Option.or_none, hown.value?_eq_some_iff hnodup]
    refine exists_congr fun written => ?_
    rw [← List.nil_append [entry], lastDeclared_append_singleton]
    simp [not_lastDeclared_nil]
  | @child line entry next parent hparent hnext _ ih =>
    obtain ⟨p, own, hp, hown, hnodup, hfields⟩ := h.fields_of_child hparent hnext
    have hp' := ih hp
    rw [Registry.get?] at hp'
    rw [Registry.get?, hfields, OrderedMap.value?_putAll, OrderedMap.value?_reverse hnodup]
    have hnames : OrderedMap.names own = entry.fieldNames := hown.names_eq
    rw [Option.or_eq_some_iff, hown.value?_eq_some_iff hnodup, hp',
      OrderedMap.value?_eq_none_iff, hnames]
    simp only [lastDeclared_append_singleton]
    constructor
    · rintro (⟨written, hmem, hname, hbuild⟩ | ⟨hnot, written, hlast, rfl, hbuild⟩)
      · exact ⟨written, .inl hmem, hname, hbuild⟩
      · exact ⟨written, .inr ⟨hlast, hnot⟩, rfl, hbuild⟩
    · rintro ⟨written, hmem | ⟨hlast, hnot⟩, rfl, hbuild⟩
      · exact .inl ⟨written, hmem, rfl, hbuild⟩
      · exact .inr ⟨hnot, written, hlast, rfl, hbuild⟩

/-- A field that a line declares last can be built, and the model has it. -/
theorem Resolves.exists_get?_of_lastDeclared {m : Manifest} {line : List ModelEntry}
    {entry : ModelEntry} (hline : m.Lineage line entry) {r : Registry τ} (h : m.Resolves entry r)
    {written : FieldEntry} (hlast : LastDeclared line written) :
    ∃ f, written.build = .ok f ∧ r.get? written.name = some f := by
  have hwritten : written.WellFormed := by
    induction hline generalizing r with
    | @root entry hparent =>
      rw [← List.nil_append [entry], lastDeclared_append_singleton] at hlast
      have hmem := hlast.resolve_right fun hbefore => not_lastDeclared_nil hbefore.1
      exact h.wellFormed.fields written hmem
    | child hparent hnext _ ih =>
      obtain ⟨p, -, hp, -⟩ := h.fields_of_child hparent hnext
      rcases lastDeclared_append_singleton.mp hlast with hmem | ⟨hbefore, -⟩
      · exact h.wellFormed.fields written hmem
      · exact ih hp hbefore
  obtain ⟨f, hbuild, -⟩ := FieldEntry.wellFormed_iff.mp hwritten
  exact ⟨f, hbuild, (h.get?_eq_some_iff hline).mpr ⟨written, hlast, rfl, hbuild⟩⟩

/-- A model has at most one registry. -/
theorem Resolves.unique {m : Manifest} {entry : ModelEntry} {r r' : Registry τ}
    (h : m.Resolves entry r) (h' : m.Resolves entry r') : r = r' := by
  induction h generalizing r' with
  | root hparent hresolve =>
    cases h' with
    | root _ hresolve' => exact Except.ok.inj (hresolve.symm.trans hresolve')
    | child hsome _ _ _ => simp [hparent] at hsome
  | child hparent hnext _ hresolve ih =>
    cases h' with
    | root hnone _ => simp [hparent] at hnone
    | child hsome hnext' hp' hresolve' =>
      rw [hparent, Option.some.injEq] at hsome
      subst hsome
      rw [hnext, Option.some.injEq] at hnext'
      subst hnext'
      rw [ih hp'] at hresolve
      exact Except.ok.inj (hresolve.symm.trans hresolve')

/-- A model with a registry has a line of ancestors. -/
theorem Resolves.exists_lineage {m : Manifest} {entry : ModelEntry} {r : Registry τ}
    (h : m.Resolves entry r) : ∃ line, m.Lineage line entry := by
  induction h with
  | root hparent _ => exact ⟨_, .root hparent⟩
  | child hparent hnext _ _ ih =>
    obtain ⟨line, hline⟩ := ih
    exact ⟨_, .child hparent hnext hline⟩

/-- A manifest with distinct names of which each model resolves is well-formed. -/
theorem wellFormed_of_resolves {m : Manifest} (hnodup : m.names.Nodup)
    (hresolves : ∀ entry ∈ m.models, ∃ r : Registry τ, m.Resolves entry r) : m.WellFormed := by
  refine ⟨hnodup, ?_, ?_, ?_⟩
  · intro entry hentry parent hparent
    obtain ⟨r, hr⟩ := hresolves entry hentry
    exact hr.declared hparent
  · intro name hcycle
    obtain ⟨_, ⟨entry, hentry, rfl, _⟩, _⟩ := Relation.TransGen.head'_iff.mp hcycle
    obtain ⟨r, hr⟩ := hresolves entry hentry
    exact not_transGen_self_of_acc (hr.acc hnodup hentry) hcycle
  · intro entry hentry
    obtain ⟨r, hr⟩ := hresolves entry hentry
    exact hr.wellFormed

end Manifest

/-! ## Catalogs -/

namespace Catalog

open Manifest

/-- A table holds registries of a catalog, each under the name of its model. -/
def Holds (c : Catalog τ) (built : Built τ) : Prop :=
  ∀ name r, built.lookup name = some r → c.get? name = some r

/-- A catalog has the registries that the models of its manifest resolve to. -/
theorem get?_eq_some_iff {m : Manifest} {c : Catalog τ} (hc : ofManifest m = .ok c)
    {name : String} {r : Registry τ} :
    c.get? name = some r ↔ ∃ entry, m.find? name = some entry ∧ m.Resolves entry r := by
  obtain ⟨hnodup, hall⟩ := resolves_of_ofManifest hc
  constructor
  · intro hget
    obtain ⟨hmem, rfl⟩ := of_findNamed hget
    obtain ⟨entry, hentry, hresolves⟩ := exists_partner_of_mem_right hall hmem
    refine ⟨entry, ?_, hresolves⟩
    rw [hresolves.name_key.1]
    exact findNamed_of_mem hnodup hentry
  · rintro ⟨entry, hfind, hresolves⟩
    obtain ⟨hentry, rfl⟩ := of_findNamed hfind
    obtain ⟨r', hmem, hresolves'⟩ := exists_partner_of_mem_left hall hentry
    obtain rfl := hresolves.unique hresolves'
    have hnames : (c.models.map (·.name)).Nodup := by
      have heq : c.models.map (·.name) = m.names := names_of_ofManifest hc
      rw [heq]
      exact hnodup
    rw [← hresolves.name_key.1]
    exact findNamed_of_mem hnames hmem

/-- The registries of a catalog name no field twice. -/
theorem nodup_fieldNames_of_get? {m : Manifest} {c : Catalog τ} (hc : ofManifest m = .ok c)
    {name : String} {r : Registry τ} (hr : c.get? name = some r) : r.fieldNames.Nodup := by
  obtain ⟨_, -, hresolves⟩ := (get?_eq_some_iff hc).mp hr
  exact hresolves.nodup_fieldNames

/-- A manifest with a catalog is well-formed: each of its models resolves. -/
theorem wellFormed_of_ofManifest {m : Manifest} {c : Catalog τ} (hc : ofManifest m = .ok c) :
    m.WellFormed := by
  obtain ⟨hnodup, hall⟩ := resolves_of_ofManifest hc
  refine wellFormed_of_resolves (τ := τ) hnodup fun entry hentry => ?_
  obtain ⟨r, -, hr⟩ := exists_partner_of_mem_left hall hentry
  exact ⟨r, hr⟩

/-- A table holds registries of the catalog exactly if it records what models resolve to. -/
theorem holds_iff_records {m : Manifest} {c : Catalog τ} (hc : ofManifest m = .ok c)
    {built : Built τ} : c.Holds built ↔ m.Records built := by
  simp only [Holds, Records, get?_eq_some_iff hc]

/-- Below models that descend from it, and with any registries of the catalog built before, a model
is built with the registry that the catalog has of it. -/
theorem place_eq_ok_of_holds {m : Manifest} {c : Catalog τ} (hc : ofManifest m = .ok c)
    {entry : ModelEntry} (hentry : entry ∈ m.models) {r : Registry τ}
    (hr : c.get? entry.name = some r) {stack : List String}
    (hstack : ∀ name ∈ stack, Relation.TransGen m.Extends name entry.name) {built : Built τ}
    (hbuilt : c.Holds built) :
    ∃ built', m.place stack entry hentry built = .ok (r, built') ∧ c.Holds built' := by
  have hm : m.WellFormed := wellFormed_of_ofManifest hc
  have hfind : m.find? entry.name = some entry := findNamed_of_mem hm.nodup hentry
  obtain ⟨hok, herror⟩ :=
    place_spec stack entry hentry built hfind ((holds_iff_records hc).mp hbuilt)
  cases hplace : m.place stack entry hentry built with
  | error error => exact absurd hm ((herror error hplace).not_wellFormed hentry hstack)
  | ok outcome =>
    obtain ⟨r', built'⟩ := outcome
    obtain ⟨hr', hbuilt'⟩ := hok r' built' hplace
    obtain ⟨entry', hfind', hresolves⟩ := (get?_eq_some_iff hc).mp hr
    rw [hfind, Option.some.injEq] at hfind'
    subst hfind'
    obtain rfl := hresolves.unique hr'
    exact ⟨built', rfl, (holds_iff_records hc).mpr hbuilt'⟩

/-- The registry of a model of a catalog is its line of ancestors, flattened: fields stand where
their names were first declared, from the root on, and each has the form in which the last model
of the line declares it that declares its name.  It is the same whatever was built before. -/
theorem flattened_of_ofManifest {m : Manifest} {c : Catalog τ} (hc : ofManifest m = .ok c)
    {entry : ModelEntry} (hentry : entry ∈ m.models) :
    (∃ line, m.Lineage line entry) ∧ ∀ line, m.Lineage line entry →
      ∃ r, c.get? entry.name = some r ∧
        r.fieldNames = (line.flatMap (·.fieldNames)).eraseDups ∧
        (∀ name f, r.get? name = some f ↔
          ∃ written, LastDeclared line written ∧ written.name = name ∧ written.build = .ok f) ∧
        ∀ stack built, (∀ name ∈ stack, Relation.TransGen m.Extends name entry.name) →
          c.Holds built →
            ∃ built', m.place stack entry hentry built = .ok (r, built') ∧ c.Holds built' := by
  obtain ⟨hnodup, hall⟩ := resolves_of_ofManifest hc
  obtain ⟨r, -, hr⟩ := exists_partner_of_mem_left hall hentry
  have hget : c.get? entry.name = some r :=
    (get?_eq_some_iff hc).mpr ⟨entry, findNamed_of_mem hnodup hentry, hr⟩
  refine ⟨hr.exists_lineage, fun line hline => ⟨r, hget, hr.fieldNames_eq hline, ?_, ?_⟩⟩
  · exact fun name f => hr.get?_eq_some_iff hline
  · exact fun stack built hstack hbuilt => place_eq_ok_of_holds hc hentry hget hstack hbuilt

/-- A vehicle has wheels and a name. -/
def vehicle : ModelEntry :=
  ⟨"vehicle", none, [⟨"wheels", "int", true, none, []⟩, ⟨"name", "string", true, none, []⟩]⟩

/-- A car counts its doors, and describes its wheels instead of counting them. -/
def car : ModelEntry :=
  ⟨"car", some "vehicle", [⟨"doors", "int", false, none, []⟩,
    ⟨"wheels", "string", false, none, []⟩]⟩

/-- A van has a load, and has to say what doors it has. -/
def van : ModelEntry :=
  ⟨"van", some "car", [⟨"load", "float", false, none, []⟩, ⟨"doors", "string", true, none, []⟩]⟩

/-- Vehicles, each declared before its parent. -/
def vehicles : Manifest := ⟨[van, car, vehicle]⟩

/-- The models of vehicles. -/
def vehiclesCatalog : Catalog Empty :=
  ⟨[⟨"van", .named "van", [("wheels", ⟨.scalar .string, false, []⟩),
      ("name", ⟨.scalar .string, true, []⟩), ("doors", ⟨.scalar .string, true, []⟩),
      ("load", ⟨.scalar .float, false, []⟩)]⟩,
    ⟨"car", .named "car", [("wheels", ⟨.scalar .string, false, []⟩),
      ("name", ⟨.scalar .string, true, []⟩), ("doors", ⟨.scalar .int, false, []⟩)]⟩,
    ⟨"vehicle", .named "vehicle", [("wheels", ⟨.scalar .int, true, []⟩),
      ("name", ⟨.scalar .string, true, []⟩)]⟩]⟩

theorem ofManifest_vehicles : ofManifest vehicles = .ok vehiclesCatalog := by
  cbv

theorem lineage_van : vehicles.Lineage [vehicle, car, van] van :=
  .child rfl (by decide) (.child rfl (by decide) (.root rfl))

/-- A van has the wheels of a car in the place of those of a vehicle, and its own doors in the
place of those of a car.  It has them also if nothing was built before it. -/
theorem get?_van :
    ∃ r, vehiclesCatalog.get? van.name = some r ∧
      r.fieldNames = ["wheels", "name", "doors", "load"] ∧
      r.get? "wheels" = some ⟨.scalar .string, false, []⟩ ∧
      r.get? "doors" = some ⟨.scalar .string, true, []⟩ ∧
      ∃ built, vehicles.place [] van (by decide) [] = .ok (r, built) ∧
        vehiclesCatalog.Holds built := by
  have hvan : van ∈ vehicles.models := by decide
  obtain ⟨r, hget, hnames, hfield, hplace⟩ :=
    (flattened_of_ofManifest ofManifest_vehicles hvan).2 _ lineage_van
  refine ⟨r, hget, hnames.trans (by decide), ?_, ?_, hplace [] [] (by simp) nofun⟩
  · refine (hfield _ _).mpr ⟨⟨"wheels", "string", false, none, []⟩, ?_, rfl, by cbv⟩
    exact ⟨[vehicle], car, [van], rfl, by decide, by decide⟩
  · refine (hfield _ _).mpr ⟨⟨"doors", "string", true, none, []⟩, ?_, rfl, by cbv⟩
    exact ⟨[vehicle, car], van, [], rfl, by decide, by decide⟩

end Catalog
end ModelSchema
