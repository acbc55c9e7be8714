import ModelSchema.Proofs.Manifest.Flattening
import ModelSchema.Proofs.Schema.Embedding

/-!
# Catalogs with more models

A manifest may be enlarged by further models, and its models may be put in another order.  Every
model keeps its registry.  It also keeps the outcome of its compilation, whether that is a document
or a circle of models, as long as it was not that some name is not declared: this alone can change
when models are added.

Main results:

- Theorem `Manifest.Resolves.of_within`: a model keeps its registry.
- Theorem `Registry.document_stands`: what a document is made of decides what outcome it has.
- Theorem `Scope.expand_stands`: one walk through two catalogs.
- Theorem `Catalog.compileNamed_of_within`: a model keeps its registry and its outcome.
-/

namespace ModelSchema

variable {τ : Type}

/-! ## Outcomes that stand -/

section Outcomes

variable {ε α β : Type} {passing : ε → Prop} {x y : Except ε α}

/-- The first outcome is also the second one, unless it is an error that may pass. -/
def StandsUnless (passing : ε → Prop) (x y : Except ε α) : Prop :=
  (∃ error, x = .error error ∧ passing error) ∨ y = x

theorem StandsUnless.refl (passing : ε → Prop) (x : Except ε α) : StandsUnless passing x x :=
  .inr rfl

/-- The outcome of two steps stands if that of each step does. -/
theorem StandsUnless.bind (h : StandsUnless passing x y) {f g : α → Except ε β}
    (hnext : ∀ a, x = .ok a → StandsUnless passing (f a) (g a)) :
    StandsUnless passing (x >>= f) (y >>= g) := by
  rcases h with ⟨error, rfl, hpassing⟩ | rfl
  · exact .inl ⟨error, rfl, hpassing⟩
  · cases y with
    | error error => exact .refl passing _
    | ok a => exact hnext a rfl

/-- Changing the value keeps what stands. -/
theorem StandsUnless.map (h : StandsUnless passing x y) (f : α → β) :
    StandsUnless passing (x.map f) (y.map f) := by
  rcases h with ⟨error, rfl, hpassing⟩ | rfl
  · exact .inl ⟨error, rfl, hpassing⟩
  · exact .refl passing _

end Outcomes

/-! ## Documents -/

section Documents

variable {passing : SchemaError → Prop}

section Fragments

variable {model model' : ModelKey τ → Except SchemaError Fragment}
  (hmodel : ∀ key, StandsUnless passing (model key) (model' key))

include hmodel

theorem Candidate.fragment_stands (candidate : Candidate τ) :
    StandsUnless passing (candidate.fragment model) (candidate.fragment model') := by
  cases candidate with
  | primitive kind => exact .refl passing _
  | model key => exact hmodel key

theorem branches_stand (candidates : List (Candidate τ)) :
    StandsUnless passing (branches model candidates) (branches model' candidates) := by
  induction candidates with
  | nil => exact .refl passing _
  | cons candidate rest ih =>
    rw [branches, branches]
    apply (candidate.fragment_stands hmodel).bind
    intro fragment _
    apply ih.bind
    intro others _
    exact .refl passing _

theorem Target.fragment_stands (t : Target τ) :
    StandsUnless passing (t.fragment model) (t.fragment model') := by
  unfold Target.fragment
  split
  · exact Candidate.fragment_stands hmodel _
  · exact (branches_stand hmodel _).map _

theorem Shape.fragment_stands (s : Shape τ) :
    StandsUnless passing (s.fragment model) (s.fragment model') := by
  cases s with
  | scalar kind => exact .refl passing _
  | embedded t => exact t.fragment_stands hmodel
  | list t => exact (t.fragment_stands hmodel).map _

theorem Field.fragment_stands (f : Field τ) :
    StandsUnless passing (f.fragment model) (f.fragment model') :=
  (f.shape.fragment_stands hmodel).map _

end Fragments

variable {model model' : String → ModelKey τ → Except SchemaError Fragment}

theorem properties_stand
    (hmodel : ∀ field key, StandsUnless passing (model field key) (model' field key))
    (fields : OrderedMap (Field τ)) (written : OrderedMap Json) :
    StandsUnless passing (properties model fields written) (properties model' fields written) := by
  induction fields generalizing written with
  | nil => exact .refl passing _
  | cons entry rest ih =>
    rw [properties, properties]
    apply (entry.2.fragment_stands (hmodel entry.1)).bind
    intro fragment _
    exact ih _

/-- The outcome for a model stands if the outcomes for the models that its fields refer to do. -/
theorem Registry.document_stands
    (hmodel : ∀ field key, StandsUnless passing (model field key) (model' field key))
    (r : Registry τ) : StandsUnless passing (r.document model) (r.document model') := by
  rw [Registry.document, Registry.document]
  apply (properties_stand hmodel r.fields []).bind
  intro properties _
  exact .refl passing _

end Documents

/-! ## Manifests -/

namespace Manifest

variable {m m' : Manifest}

/-- Every model of a manifest is also declared by another one, in any place. -/
def Within (m m' : Manifest) : Prop := ∀ entry ∈ m.models, entry ∈ m'.models

instance (m m' : Manifest) : Decidable (m.Within m') :=
  inferInstanceAs (Decidable (∀ entry ∈ m.models, entry ∈ m'.models))

/-- A model is found under its name among more models, too. -/
theorem Within.find?_eq_some (h : m.Within m') (hnodup : m'.names.Nodup) {name : String}
    {entry : ModelEntry} (hfind : m.find? name = some entry) : m'.find? name = some entry := by
  obtain ⟨hmem, rfl⟩ := of_findNamed hfind
  exact findNamed_of_mem hnodup (h entry hmem)

/-- A model keeps its registry when more models are declared. -/
theorem Resolves.of_within (hwithin : m.Within m') (hnodup : m'.names.Nodup)
    {entry : ModelEntry} {r : Registry τ} (h : m.Resolves entry r) : m'.Resolves entry r := by
  induction h with
  | root hparent hresolve => exact .root hparent hresolve
  | child hparent hnext _ hresolve ih =>
    exact .child hparent (hwithin.find?_eq_some hnodup hnext) ih hresolve

end Manifest

/-! ## Catalogs -/

/-- A name is not declared. -/
def SchemaError.IsUnresolved : SchemaError → Prop
  | unresolvedModel _ _ _ => True
  | _ => False

/-- What is found in a catalog is found in another one, too. -/
def Catalog.Within (c c' : Catalog τ) : Prop :=
  ∀ name r, c.get? name = some r → c'.get? name = some r

/-- The registries of a manifest are among those of a larger one. -/
theorem Catalog.within_of_ofManifest {m m' : Manifest} {c c' : Catalog τ}
    (hc : ofManifest m = .ok c) (hc' : ofManifest m' = .ok c') (hwithin : m.Within m') :
    c.Within c' := by
  have hnodup : m'.names.Nodup := (resolves_of_ofManifest hc').1
  intro name r hr
  obtain ⟨entry, hfind, hresolves⟩ := (get?_eq_some_iff hc).mp hr
  exact (get?_eq_some_iff hc').mpr
    ⟨entry, hwithin.find?_eq_some hnodup hfind, hresolves.of_within hwithin hnodup⟩

namespace Scope

variable [DecidableEq τ] {c c' : Catalog τ} {family : Family τ}

/-- A reference leads to the same model unless its name is not declared. -/
theorem resolve_stands (h : c.Within c') (model field : String) (key : ModelKey τ) :
    StandsUnless SchemaError.IsUnresolved (resolve ⟨family, some c⟩ model field key)
      (resolve ⟨family, some c'⟩ model field key) := by
  cases key with
  | typed t => exact .refl _ _
  | named name =>
    rw [Catalog.resolve_named, Catalog.resolve_named]
    cases hr : c.get? name with
    | none => exact .inl ⟨_, rfl, trivial⟩
    | some r =>
      rw [h name r hr]
      exact .refl _ _

/-- On one path a model expands in the same way in both catalogs, step by step, unless it comes to
a name that is not declared. -/
theorem expand_stands (h : c.Within c') (path : List (Registry τ)) (r : Registry τ) :
    StandsUnless SchemaError.IsUnresolved (expand ⟨family, some c⟩ path r)
      (expand ⟨family, some c'⟩ path r) := by
  induction path, r using expand.induct ⟨family, some c⟩ with
  | case1 path r hpath =>
    rw [expand_eq, expand_eq, if_pos hpath, if_pos hpath]
    exact .refl _ _
  | case2 path r hpath ih =>
    rw [expand_eq, expand_eq, if_neg hpath, if_neg hpath]
    apply Registry.document_stands
    intro field key
    apply (resolve_stands h r.name field key).bind
    intro next hnext
    exact ih field key next hnext

end Scope

namespace Catalog

variable [DecidableEq τ] {c c' : Catalog τ}

/-- In a catalog with more models, and with the models in any order, a model has the registry that
it had.  Unless it comes to a name that was not declared, it compiles to the same document, or is
refused for the same circle. -/
theorem compileNamed_of_within {m m' : Manifest} (hc : ofManifest m = .ok c)
    (hc' : ofManifest m' = .ok c') (hwithin : m.Within m') (family : Family τ) {name : String}
    (hname : name ∈ m.names) :
    (∃ r, c.get? name = some r ∧ c'.get? name = some r) ∧
      ((∀ model field target, Scope.compileNamed ⟨family, some c⟩ name ≠
          .error (.unresolvedModel model field target)) →
        (∃ document, Scope.compileNamed ⟨family, some c⟩ name = .ok document ∧
          Scope.compileNamed ⟨family, some c'⟩ name = .ok document) ∨
        ∃ model walk, Scope.compileNamed ⟨family, some c⟩ name =
            .error (.cyclicModel model walk) ∧
          Scope.compileNamed ⟨family, some c'⟩ name = .error (.cyclicModel model walk)) := by
  have hcwithin : c.Within c' := within_of_ofManifest hc hc' hwithin
  rw [← names_of_ofManifest hc] at hname
  obtain ⟨r, hr⟩ := exists_get?_of_mem_names hname
  have hr' : c'.get? name = some r := hcwithin name r hr
  refine ⟨⟨r, hr, hr'⟩, fun hresolved => ?_⟩
  rw [compileNamed_of_get? hr] at hresolved ⊢
  rw [compileNamed_of_get? hr']
  rcases Scope.expand_stands hcwithin [] r with ⟨error, herror, hunresolved⟩ | hsame
  · -- An outcome that may pass is excluded.
    cases error with
    | unresolvedModel model field target =>
      exact absurd (map_eq_error_iff.mpr herror) (hresolved model field target)
    | _ => exact hunresolved.elim
  · rw [hsame]
    obtain ⟨-, rfl⟩ := of_findNamed hr
    cases hexpand : Scope.expand ⟨family, some c⟩ [] r with
    | ok document => exact .inl ⟨.object document, rfl, rfl⟩
    | error error =>
      cases cause_of_expand_eq_error (named_of_ofManifest hc) hr (by simp) hexpand with
      | unresolved => exact absurd (map_eq_error_iff.mpr hexpand) (hresolved _ _ _)
      | cyclic => exact .inr ⟨_, _, rfl, rfl⟩

/-- The models of assemblies in another order, with an assembly that has a name and a workshop
around them. -/
def workshops : Manifest :=
  ⟨⟨"machine", some "assembly", [⟨"name", "string", true, none, []⟩]⟩ ::
    assemblies.models.reverse ++
    [⟨"workshop", none, [⟨"machines", "list", false, some (.many ["machine", "assembly"]), []⟩]⟩]⟩

/-- The models of workshops. -/
def workshopsCatalog : Catalog Empty :=
  ⟨⟨"machine", .named "machine",
      [("owner", ⟨.embedded (.single (.model (.named "person"))), false, []⟩),
        ("parts", ⟨.list (.candidates [.model (.named "part"), .primitive .string]), true, []⟩),
        ("name", ⟨.scalar .string, true, []⟩)]⟩ ::
    assembliesCatalog.models.reverse ++
    [⟨"workshop", .named "workshop", [("machines",
      ⟨.list (.candidates [.model (.named "machine"), .model (.named "assembly")]), false, []⟩)]⟩]⟩

/-- Folders with a drive before them. -/
def drives : Manifest :=
  ⟨⟨"drive", none, [⟨"root", "embedded", true, some (.one "folder"), []⟩]⟩ :: folders.models⟩

/-- The models of drives. -/
def drivesCatalog : Catalog Empty :=
  ⟨⟨"drive", .named "drive",
    [("root", ⟨.embedded (.single (.model (.named "folder"))), true, []⟩)]⟩ ::
    foldersCatalog.models⟩

theorem ofManifest_workshops : ofManifest workshops = .ok workshopsCatalog := by
  cbv

theorem ofManifest_drives : ofManifest drives = .ok drivesCatalog := by
  cbv

/-- An assembly has the same document in a workshop, and a folder the same circle on a drive. -/
theorem compileNamed_assembly_folder :
    (∃ document, Scope.compileNamed ⟨.none, some assembliesCatalog⟩ "assembly" = .ok document ∧
      Scope.compileNamed ⟨.none, some workshopsCatalog⟩ "assembly" = .ok document) ∧
    Scope.compileNamed ⟨.none, some drivesCatalog⟩ "folder" =
      .error (.cyclicModel "folder" ["folder", "folder"]) := by
  constructor
  · have hdocument : ∃ document,
        Scope.compileNamed ⟨.none, some assembliesCatalog⟩ "assembly" = .ok document :=
      ⟨_, by cbv⟩
    obtain ⟨document, hok⟩ := hdocument
    obtain ⟨-, houtcome⟩ := compileNamed_of_within ofManifest_assemblies ofManifest_workshops
      (by decide) .none (show "assembly" ∈ assemblies.names by decide)
    rcases houtcome (by simp [hok]) with ⟨document', h, h'⟩ | ⟨model, walk, h, -⟩
    · exact ⟨document', h, h'⟩
    · rw [hok] at h
      cases h
  · have hcircle : Scope.compileNamed ⟨.none, some foldersCatalog⟩ "folder" =
        .error (.cyclicModel "folder" ["folder", "folder"]) := by
      cbv
    obtain ⟨-, houtcome⟩ := compileNamed_of_within ofManifest_folders ofManifest_drives
      (by decide) .none (show "folder" ∈ folders.names by decide)
    rcases houtcome (by simp [hcircle]) with ⟨document, h, -⟩ | ⟨model, walk, h, h'⟩
    · rw [hcircle] at h
      cases h
    · rw [hcircle] at h
      cases h
      exact h'

end Catalog
end ModelSchema
