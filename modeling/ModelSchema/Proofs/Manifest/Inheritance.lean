import Mathlib
import ModelSchema.Proofs.Manifest.Entry
import ModelSchema.Proofs.Walk

/-!
# Catalogs and the inheritance of their models

`Manifest.Resolves` says what the registry of a model is, and `Manifest.Fails` why a model has
none; neither knows of the registries that were built before.  Building from a table of built
registries agrees with both, as long as the table itself records only what `Resolves` says, and
every step keeps that.

Main results:

- Theorem `Manifest.place_spec`: building a model yields its registry or a failure with a cause.
- Theorem `Manifest.Fails.not_wellFormed`: a failure is a fault of the manifest.
- Theorem `Catalog.exists_ofManifest_iff`: the manifests that have a catalog.
-/

namespace ModelSchema

variable {τ : Type}

namespace Manifest

/-! ## Inheritance as a relation -/

/-- A declared model names another one as its parent. -/
def Extends (m : Manifest) (child parent : String) : Prop :=
  ∃ entry ∈ m.models, entry.name = child ∧ entry.parent = some parent

/-- Names are distinct, parents are declared and no model is its own ancestor; and every entry is
well-formed by itself. -/
structure WellFormed (m : Manifest) : Prop where
  nodup : m.names.Nodup
  declared : ∀ entry ∈ m.models, ∀ parent, entry.parent = some parent → parent ∈ m.names
  acyclic : ∀ name, ¬ Relation.TransGen m.Extends name name
  entries : ∀ entry ∈ m.models, entry.WellFormed

/-- The registry of a model, built from the registries of its ancestors. -/
inductive Resolves (m : Manifest) : ModelEntry → Registry τ → Prop where
  | root {entry : ModelEntry} {r : Registry τ} (hparent : entry.parent = none)
      (hresolve : resolve entry none = .ok r) : m.Resolves entry r
  | child {entry next : ModelEntry} {parent : String} {p r : Registry τ}
      (hparent : entry.parent = some parent) (hnext : m.find? parent = some next)
      (hp : m.Resolves next p) (hresolve : resolve entry (some p) = .ok r) : m.Resolves entry r

/-- The failure of a model below the models on a stack. -/
inductive Fails (m : Manifest) (τ : Type) : List String → ModelEntry → CatalogError → Prop where
  | cyclic {stack : List String} {entry : ModelEntry} (hstack : entry.name ∈ stack) :
      m.Fails τ stack entry (.model entry.name (.cyclicInheritance entry.name
        (stack.dropWhile (· ≠ entry.name) ++ [entry.name])))
  | unknown {stack : List String} {entry : ModelEntry} {parent : String}
      (hparent : entry.parent = some parent) (hnext : m.find? parent = none) :
      m.Fails τ stack entry (.unknownParent entry.name parent)
  | ancestor {stack : List String} {entry next : ModelEntry} {parent : String}
      {error : CatalogError} (hparent : entry.parent = some parent)
      (hnext : m.find? parent = some next)
      (hfails : m.Fails τ (stack ++ [entry.name]) next error) : m.Fails τ stack entry error
  | ownRoot {stack : List String} {entry : ModelEntry} {error : CatalogError}
      (hparent : entry.parent = none)
      (hresolve : resolve (τ := τ) entry none = .error error) : m.Fails τ stack entry error
  | ownChild {stack : List String} {entry next : ModelEntry} {parent : String}
      {p : Registry τ} {error : CatalogError} (hparent : entry.parent = some parent)
      (hnext : m.find? parent = some next) (hp : m.Resolves next p)
      (hresolve : resolve entry (some p) = .error error) : m.Fails τ stack entry error

/-- A table records, under the name of a model, the registry of that model. -/
def Records (m : Manifest) (built : Built τ) : Prop :=
  ∀ name r, built.lookup name = some r → ∃ entry, m.find? name = some entry ∧ m.Resolves entry r

/-! ## Building agrees with the relations -/

/-- The empty table records nothing. -/
theorem records_nil {m : Manifest} : m.Records (τ := τ) [] := by
  intro name r h
  cases h

/-- A table stays sound when the registry of a model is added under its name. -/
theorem Records.append {m : Manifest} {built : Built τ} (h : m.Records built)
    {entry : ModelEntry} (hentry : m.find? entry.name = some entry) {r : Registry τ}
    (hr : m.Resolves entry r) : m.Records (built ++ [(entry.name, r)]) := by
  intro name found hfound
  rw [List.lookup_append, Option.or_eq_some_iff] at hfound
  rcases hfound with hold | ⟨-, hnew⟩
  · exact h name found hold
  · by_cases hname : name = entry.name
    · subst hname
      rw [List.lookup_cons_self, Option.some.injEq] at hnew
      subst hnew
      exact ⟨entry, hentry, hr⟩
    · simp [List.lookup_cons, beq_false_of_ne hname] at hnew

/-- The last step of building a model: its own fields are added to those of its parent. -/
theorem finish_spec {m : Manifest} {stack : List String} {entry : ModelEntry}
    {parent : Option (Registry τ)} {built : Built τ} (hentry : m.find? entry.name = some entry)
    (hbuilt : m.Records built)
    (hresolves : ∀ r, resolve entry parent = .ok r → m.Resolves entry r)
    (hfails : ∀ error, resolve entry parent = .error error → m.Fails τ stack entry error) :
    let outcome := (resolve entry parent).map fun r => (r, built ++ [(entry.name, r)])
    (∀ r built', outcome = .ok (r, built') → m.Resolves entry r ∧ m.Records built') ∧
      ∀ error, outcome = .error error → m.Fails τ stack entry error := by
  constructor
  · intro r built' h
    obtain ⟨own, hown, heq⟩ := map_eq_ok_iff.mp h
    obtain ⟨rfl, rfl⟩ := Prod.mk.inj heq
    exact ⟨hresolves own hown, hbuilt.append hentry (hresolves own hown)⟩
  · intro error h
    exact hfails error (map_eq_error_iff.mp h)

/-- What building a model yields: its registry and a sound table, or a failure with a cause. -/
theorem place_spec {m : Manifest} (stack : List String) (entry : ModelEntry)
    (hmem : entry ∈ m.models) (built : Built τ) (hentry : m.find? entry.name = some entry)
    (hbuilt : m.Records built) :
    (∀ r built', m.place stack entry hmem built = .ok (r, built') →
      m.Resolves entry r ∧ m.Records built') ∧
    ∀ error, m.place stack entry hmem built = .error error → m.Fails τ stack entry error := by
  fun_induction m.place stack entry hmem built with
  | case1 stack entry hmem registry hlookup =>
    -- The model was built before: the table says what it resolves to.
    refine ⟨fun r built' h => ?_, nofun⟩
    cases h
    obtain ⟨recorded, hrecorded, hr⟩ := hbuilt _ _ hlookup
    rw [hentry, Option.some.injEq] at hrecorded
    exact ⟨hrecorded ▸ hr, hbuilt⟩
  | case2 stack entry hmem hlookup hstack =>
    refine ⟨nofun, fun error h => ?_⟩
    cases h
    exact .cyclic hstack
  | case3 stack entry hmem hlookup hstack finish hparent =>
    exact finish_spec hentry hbuilt (fun r => .root hparent) (fun error => .ownRoot hparent)
  | case4 stack entry hmem hlookup hstack parent hparent hnext =>
    refine ⟨nofun, fun error h => ?_⟩
    cases h
    exact .unknown hparent hnext
  | case5 stack entry hmem hlookup hstack parent hparent next hnext error hplace ih =>
    have hname : m.find? next.name = some next := by rwa [(of_findNamed hnext).2]
    refine ⟨nofun, fun error' h => ?_⟩
    cases h
    exact .ancestor hparent hnext ((ih hname).2 error hplace)
  | case6 stack entry hmem hlookup hstack finish parent hparent next hnext p built' hplace ih =>
    have hname : m.find? next.name = some next := by rwa [(of_findNamed hnext).2]
    obtain ⟨hp, hbuilt'⟩ := (ih hname).1 p built' hplace
    exact finish_spec hentry hbuilt' (fun r => .child hparent hnext hp)
      (fun error => .ownChild hparent hnext hp)

/-- What building all models yields: the registry of each, or the failure of one of them. -/
theorem placeAll_spec {m : Manifest} (hnodup : m.names.Nodup) (entries : List ModelEntry)
    (hmem : ∀ entry ∈ entries, entry ∈ m.models) (built : Built τ) (hbuilt : m.Records built) :
    (∀ registries, m.placeAll entries hmem built = .ok registries →
      List.Forall₂ m.Resolves entries registries) ∧
    ∀ error, m.placeAll entries hmem built = .error error →
      ∃ entry ∈ entries, m.Fails τ [] entry error := by
  induction entries generalizing built with
  | nil =>
    refine ⟨fun registries h => ?_, nofun⟩
    cases h
    exact .nil
  | cons entry rest ih =>
    have hentry : m.find? entry.name = some entry :=
      findNamed_of_mem hnodup (hmem entry List.mem_cons_self)
    have hrest : ∀ e ∈ rest, e ∈ m.models := fun e he => hmem e (List.mem_cons_of_mem _ he)
    obtain ⟨hok, herror⟩ :=
      place_spec [] entry (hmem entry List.mem_cons_self) built hentry hbuilt
    constructor
    · intro registries h
      rw [placeAll, bind_eq_ok_iff] at h
      obtain ⟨⟨r, built'⟩, hplace, h⟩ := h
      obtain ⟨hr, hbuilt'⟩ := hok r built' hplace
      obtain ⟨others, hothers, heq⟩ := bind_eq_ok_iff.mp h
      cases heq
      exact .cons hr ((ih hrest built' hbuilt').1 others hothers)
    · intro error h
      rw [placeAll, bind_eq_error_iff] at h
      rcases h with h | ⟨⟨r, built'⟩, hplace, h⟩
      · exact ⟨entry, List.mem_cons_self, herror error h⟩
      · rcases bind_eq_error_iff.mp h with h | ⟨others, -, h⟩
        · obtain ⟨other, hother, hfails⟩ :=
            (ih hrest built' (hok r built' hplace).2).2 error h
          exact ⟨other, List.mem_cons_of_mem _ hother, hfails⟩
        · cases h

/-! ## What resolves -/

/-- The registry of a model comes from the entry of the model, given some parent. -/
theorem Resolves.exists_resolve {m : Manifest} {entry : ModelEntry} {r : Registry τ}
    (h : m.Resolves entry r) : ∃ parent, resolve entry parent = .ok r := by
  cases h with
  | root _ hresolve => exact ⟨none, hresolve⟩
  | child _ _ _ hresolve => exact ⟨_, hresolve⟩

/-- The registry of a model has its name, also as a key. -/
theorem Resolves.name_key {m : Manifest} {entry : ModelEntry} {r : Registry τ}
    (h : m.Resolves entry r) : r.name = entry.name ∧ r.key = .named entry.name := by
  obtain ⟨parent, hresolve⟩ := h.exists_resolve
  obtain ⟨fields, -, hbuild⟩ := resolve_eq_ok_iff.mp hresolve
  obtain ⟨-, -, -, rfl⟩ := Declaration.build_eq_ok_iff.mp hbuild
  exact ⟨rfl, rfl⟩

/-- A model that resolves has a well-formed entry. -/
theorem Resolves.wellFormed {m : Manifest} {entry : ModelEntry} {r : Registry τ}
    (h : m.Resolves entry r) : entry.WellFormed := by
  obtain ⟨parent, hresolve⟩ := h.exists_resolve
  exact exists_resolve_iff.mp ⟨r, hresolve⟩

/-- The registry of a model names no field twice. -/
theorem Resolves.nodup_fieldNames {m : Manifest} {entry : ModelEntry} {r : Registry τ}
    (h : m.Resolves entry r) : r.fieldNames.Nodup := by
  obtain ⟨parent, hresolve⟩ := h.exists_resolve
  obtain ⟨fields, -, hbuild⟩ := resolve_eq_ok_iff.mp hresolve
  exact Declaration.nodup_fieldNames_of_build hbuild

/-- A model that resolves extends only a declared model. -/
theorem Resolves.declared {m : Manifest} {entry : ModelEntry} {r : Registry τ}
    (h : m.Resolves entry r) {parent : String} (hparent : entry.parent = some parent) :
    parent ∈ m.names := by
  cases h with
  | root hnone _ => simp [hnone] at hparent
  | child hsome hnext _ _ =>
    obtain rfl : _ = parent := by simpa [hsome] using hparent
    obtain ⟨hmem, rfl⟩ := of_findNamed hnext
    exact List.mem_map_of_mem hmem

/-- The ancestors of a model that resolves come to an end. -/
theorem Resolves.acc {m : Manifest} (hnodup : m.names.Nodup) {entry : ModelEntry}
    {r : Registry τ} (h : m.Resolves entry r) (hentry : entry ∈ m.models) :
    Acc (fun parent child => m.Extends child parent) entry.name := by
  -- Names are distinct, so only the entry itself says what a model of its name extends.
  have hself : ∀ {entry : ModelEntry}, entry ∈ m.models → ∀ {parent : String},
      m.Extends entry.name parent → entry.parent = some parent := by
    rintro entry hentry parent ⟨other, hother, hname, hparent⟩
    rwa [List.inj_on_of_nodup_map hnodup hother hentry hname] at hparent
  induction h with
  | root hparent _ =>
    refine Acc.intro _ fun parent hextends => ?_
    have hsome := hself hentry hextends
    rw [hparent] at hsome
    cases hsome
  | child hparent hnext _ _ ih =>
    refine Acc.intro _ fun parent hextends => ?_
    have hsome := hself hentry hextends
    rw [hparent, Option.some.injEq] at hsome
    obtain ⟨hmem, hname⟩ := of_findNamed hnext
    rw [← hsome, ← hname]
    exact ih hmem

/-- A field of the registry of a model comes from an entry of a field, its own or inherited. -/
theorem Resolves.exists_entry {m : Manifest} {entry : ModelEntry} {r : Registry τ}
    (h : m.Resolves entry r) {field : String × Field τ} (hfield : field ∈ r.fields) :
    ∃ written : FieldEntry, field.1 = written.name ∧ written.build = .ok field.2 := by
  induction h with
  | root _ hresolve =>
    obtain ⟨fields, hfields, hbuild⟩ := resolve_eq_ok_iff.mp hresolve
    rcases Declaration.mem_fields_of_build hbuild hfield with hown | ⟨parent, hparent, -⟩
    · obtain ⟨written, -, hwritten⟩ := exists_partner_of_mem_right hfields hown
      exact ⟨written, hwritten⟩
    · cases hparent
  | child _ _ _ hresolve ih =>
    obtain ⟨fields, hfields, hbuild⟩ := resolve_eq_ok_iff.mp hresolve
    rcases Declaration.mem_fields_of_build hbuild hfield with hown | ⟨parent, hparent, hfield⟩
    · obtain ⟨written, -, hwritten⟩ := exists_partner_of_mem_right hfields hown
      exact ⟨written, hwritten⟩
    · rw [Option.toList_some, List.mem_singleton] at hparent
      subst hparent
      exact ih hfield

/-- The registry of a model mentions models by name. -/
theorem Resolves.named_of_mentions {m : Manifest} {entry : ModelEntry} {r : Registry τ}
    (h : m.Resolves entry r) {field : String} {key : ModelKey τ} (hkey : r.Mentions field key) :
    ∃ name, key = .named name := by
  obtain ⟨f, target, hmem, htarget, hcandidate⟩ := hkey
  obtain ⟨written, -, hbuild⟩ := h.exists_entry hmem
  exact FieldEntry.named_of_build hbuild htarget hcandidate

/-! ## What fails -/

/-- A failure below models that lead to the failing one is a fault of the manifest. -/
theorem Fails.not_wellFormed {m : Manifest} {stack : List String} {entry : ModelEntry}
    {error : CatalogError} (h : m.Fails τ stack entry error) (hentry : entry ∈ m.models)
    (hstack : ∀ name ∈ stack, Relation.TransGen m.Extends name entry.name) :
    ¬ m.WellFormed := by
  intro hm
  induction h with
  | cyclic hmem => exact hm.acyclic _ (hstack _ hmem)
  | unknown hparent hnext =>
    exact findNamed_eq_none_iff.mp hnext (hm.declared _ hentry _ hparent)
  | @ancestor stack entry next parent error hparent hnext _ ih =>
    obtain ⟨hmem, rfl⟩ := of_findNamed hnext
    have hstep : m.Extends entry.name next.name := ⟨entry, hentry, rfl, hparent⟩
    refine ih hmem fun name hname => ?_
    rcases List.mem_append.mp hname with hname | hname
    · exact (hstack name hname).tail hstep
    · rw [List.mem_singleton.mp hname]
      exact Relation.TransGen.single hstep
  | ownRoot _ hresolve =>
    obtain ⟨r, hok⟩ := exists_resolve_iff.mpr (hm.entries _ hentry)
    rw [hresolve] at hok
    cases hok
  | ownChild _ _ _ hresolve =>
    obtain ⟨r, hok⟩ := exists_resolve_iff.mpr (hm.entries _ hentry)
    rw [hresolve] at hok
    cases hok

end Manifest

/-! ## Catalogs -/

/-- No name is repeated exactly if the names are distinct and differ from those seen before. -/
theorem firstRepeated?_eq_none_iff {seen names : List String} :
    firstRepeated? seen names = none ↔ names.Nodup ∧ ∀ name ∈ names, name ∉ seen := by
  induction names generalizing seen with
  | nil => simp [firstRepeated?]
  | cons name rest ih =>
    by_cases hseen : name ∈ seen
    · simp [firstRepeated?, hseen]
    · rw [firstRepeated?, if_neg hseen, ih, List.nodup_cons, List.forall_mem_cons]
      simp only [List.mem_cons, not_or]
      constructor
      · rintro ⟨hnodup, hnew⟩
        exact ⟨⟨fun hmem => (hnew name hmem).1 rfl, hnodup⟩, hseen, fun n hn => (hnew n hn).2⟩
      · rintro ⟨⟨hmem, hnodup⟩, -, hnew⟩
        refine ⟨hnodup, fun n hn => ⟨?_, hnew n hn⟩⟩
        rintro rfl
        exact hmem hn

namespace Catalog

open Manifest

/-- The catalog of a manifest has the registry of each model, in order. -/
theorem resolves_of_ofManifest {m : Manifest} {c : Catalog τ} (h : ofManifest m = .ok c) :
    m.names.Nodup ∧ List.Forall₂ m.Resolves m.models c.models := by
  unfold ofManifest at h
  split at h
  · cases h
  · rename_i hfirst
    have hnodup := (firstRepeated?_eq_none_iff.mp hfirst).1
    obtain ⟨registries, hplace, rfl⟩ := map_eq_ok_iff.mp h
    exact ⟨hnodup, (placeAll_spec hnodup m.models _ [] records_nil).1 registries hplace⟩

/-- A manifest without a catalog has a fault. -/
theorem not_wellFormed_of_ofManifest {m : Manifest} {error : CatalogError}
    (h : ofManifest (τ := τ) m = .error error) : ¬ m.WellFormed := by
  intro hm
  have hfirst : firstRepeated? [] m.names = none :=
    firstRepeated?_eq_none_iff.mpr ⟨hm.nodup, fun _ _ => List.not_mem_nil⟩
  simp only [ofManifest, hfirst] at h
  obtain ⟨entry, hentry, hfails⟩ :=
    (placeAll_spec (τ := τ) hm.nodup m.models _ [] records_nil).2 error (map_eq_error_iff.mp h)
  exact hfails.not_wellFormed hentry (by simp) hm

/-- The models of a catalog have the names of the manifest, in its order. -/
theorem names_of_ofManifest {m : Manifest} {c : Catalog τ} (h : ofManifest m = .ok c) :
    c.names = m.names := by
  have hnames : ∀ {entries : List ModelEntry} {registries : List (Registry τ)},
      List.Forall₂ m.Resolves entries registries →
        registries.map (·.name) = entries.map (·.name) := by
    intro entries registries hall
    induction hall with
    | nil => rfl
    | cons hfirst _ ih => rw [List.map_cons, List.map_cons, ih, hfirst.name_key.1]
  exact hnames (resolves_of_ofManifest h).2

/-- A manifest has a catalog exactly if it is well-formed; the catalog then lists its models in
order, each under the key of its name. -/
theorem exists_ofManifest_iff (m : Manifest) :
    ((∃ c : Catalog τ, ofManifest m = .ok c) ↔ m.WellFormed) ∧
      ∀ c : Catalog τ, ofManifest m = .ok c →
        c.names = m.names ∧ ∀ r ∈ c.models, r.key = .named r.name := by
  refine ⟨⟨?_, ?_⟩, ?_⟩
  · rintro ⟨c, hc⟩
    obtain ⟨hnodup, hall⟩ := resolves_of_ofManifest hc
    have hresolves : ∀ entry ∈ m.models, ∃ r : Registry τ, m.Resolves entry r := by
      intro entry hentry
      obtain ⟨r, -, hr⟩ := exists_partner_of_mem_left hall hentry
      exact ⟨r, hr⟩
    refine ⟨hnodup, ?_, ?_, ?_⟩
    · intro entry hentry parent hparent
      obtain ⟨r, hr⟩ := hresolves entry hentry
      exact hr.declared hparent
    · intro name hcycle
      obtain ⟨_, ⟨entry, hentry, rfl, _⟩, _⟩ := Relation.TransGen.head'_iff.mp hcycle
      obtain ⟨r, hr⟩ := hresolves entry hentry
      exact not_transGen_self_of_acc (hr.acc hnodup hentry) hcycle
    · intro entry hentry
      obtain ⟨r, hr⟩ := hresolves entry hentry
      exact hr.wellFormed
  · intro hm
    cases hc : ofManifest (τ := τ) m with
    | ok c => exact ⟨c, rfl⟩
    | error error => exact absurd hm (not_wellFormed_of_ofManifest hc)
  · intro c hc
    refine ⟨names_of_ofManifest hc, fun r hr => ?_⟩
    obtain ⟨entry, -, hresolves⟩ :=
      exists_partner_of_mem_right (resolves_of_ofManifest hc).2 hr
    rw [hresolves.name_key.1, hresolves.name_key.2]

/-- An assembly has parts, and its owner is inherited from a model that is declared later. -/
def assemblies : Manifest :=
  ⟨[⟨"assembly", some "owned",
      [⟨"parts", "list", true, some (.many ["part", "string"]), []⟩]⟩,
    ⟨"owned", none, [⟨"owner", "embedded", false, some (.one "person"), []⟩]⟩,
    ⟨"part", none, [⟨"maker", "embedded", false, some (.many ["person"]), []⟩]⟩,
    ⟨"person", none, [⟨"name", "string", true, none, [.length 1 none]⟩]⟩]⟩

/-- The models of assemblies: the inherited field of an assembly stands before its own. -/
def assembliesCatalog : Catalog Empty :=
  let owner : String × Field Empty :=
    ("owner", ⟨.embedded (.single (.model (.named "person"))), false, []⟩)
  ⟨[⟨"assembly", .named "assembly",
      [owner,
        ("parts",
          ⟨.list (.candidates [.model (.named "part"), .primitive .string]), true, []⟩)]⟩,
    ⟨"owned", .named "owned", [owner]⟩,
    ⟨"part", .named "part",
      [("maker", ⟨.embedded (.candidates [.model (.named "person")]), false, []⟩)]⟩,
    ⟨"person", .named "person", [("name", ⟨.scalar .string, true, [.length 1 none]⟩)]⟩]⟩

theorem ofManifest_assemblies : ofManifest assemblies = .ok assembliesCatalog := by
  cbv

/-- Declaring a parent after its child is no fault, and does not change the order of the names. -/
theorem wellFormed_assemblies :
    assemblies.WellFormed ∧ assembliesCatalog.names = assemblies.names ∧
      ∀ r ∈ assembliesCatalog.models, r.key = .named r.name := by
  have hcatalog := ofManifest_assemblies
  refine ⟨(exists_ofManifest_iff assemblies).1.mp ⟨assembliesCatalog, hcatalog⟩, ?_⟩
  exact (exists_ofManifest_iff assemblies).2 assembliesCatalog hcatalog

end Catalog
end ModelSchema
