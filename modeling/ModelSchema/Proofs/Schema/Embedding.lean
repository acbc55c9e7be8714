import ModelSchema.Proofs.Manifest.Inheritance
import ModelSchema.Proofs.Schema.Expansion

/-!
# Which models of a catalog have a schema

A model of a catalog embeds the models that its fields mention, in any candidate.  Following these
references from a model, the compiler finds a document exactly if every reference leads to a
declared model and no walk returns to where it was.

Main results:

- Theorem `Catalog.cause_of_expand_eq_error`: an error of the compiler has a cause in the graph.
- Theorem `Catalog.closed_and_acc_of_expand_eq_ok`: a document leaves no cause.
- Theorem `Catalog.exists_compileNamed_iff`: which models of a catalog have a schema.
-/

namespace ModelSchema

variable {τ : Type}

namespace Catalog

/-! ## The graph of a catalog -/

/-- A model of a catalog has a field with another model among its candidates. -/
def Embeds (c : Catalog τ) (model target : String) : Prop :=
  ∃ r field, c.get? model = some r ∧ r.Mentions field (.named target)

/-- Every model that is embedded by a model within reach is declared. -/
def Closed (c : Catalog τ) (start : String) : Prop :=
  ∀ model target, Relation.ReflTransGen c.Embeds start model → c.Embeds model target →
    target ∈ c.names

/-- No model within reach embeds itself, in any number of steps. -/
def Acyclic (c : Catalog τ) (start : String) : Prop :=
  ∀ model, Relation.ReflTransGen c.Embeds start model → ¬ Relation.TransGen c.Embeds model model

/-- The cause of an error within reach of a model. -/
inductive Cause (c : Catalog τ) (start : String) : SchemaError → Prop where
  | unresolved {model field target : String} {r : Registry τ}
      (hreach : Relation.ReflTransGen c.Embeds start model) (hmodel : c.get? model = some r)
      (hmentions : r.Mentions field (.named target)) (hmissing : target ∉ c.names) :
      c.Cause start (.unresolvedModel model field target)
  | cyclic {model : String} {walk : List String}
      (hreach : Relation.ReflTransGen c.Embeds start model)
      (hcycle : Relation.TransGen c.Embeds model model) : c.Cause start (.cyclicModel model walk)

/-- Models have their names as keys and mention models by name. -/
structure Named (c : Catalog τ) : Prop where
  key_eq : ∀ r ∈ c.models, r.key = .named r.name
  mentions : ∀ r ∈ c.models, ∀ field key, r.Mentions field key → ∃ target, key = .named target

/-- The models of the catalog of a manifest have their names as keys and mention models by name. -/
theorem named_of_ofManifest {m : Manifest} {c : Catalog τ} (h : ofManifest m = .ok c) :
    c.Named := by
  have hresolves : ∀ r ∈ c.models, ∃ entry, m.Resolves entry r := by
    intro r hr
    obtain ⟨entry, -, hentry⟩ := exists_partner_of_mem_right (resolves_of_ofManifest h).2 hr
    exact ⟨entry, hentry⟩
  constructor
  · intro r hr
    obtain ⟨entry, hentry⟩ := hresolves r hr
    rw [hentry.name_key.1, hentry.name_key.2]
  · intro r hr field key hkey
    obtain ⟨entry, hentry⟩ := hresolves r hr
    exact hentry.named_of_mentions hkey

/-- A declared name has a model. -/
theorem exists_get?_of_mem_names {c : Catalog τ} {name : String} (h : name ∈ c.names) :
    ∃ r, c.get? name = some r := by
  cases hget : c.get? name with
  | some r => exact ⟨r, rfl⟩
  | none => exact absurd h (findNamed_eq_none_iff.mp hget)

/-- References lead to declared models and walks end if they do so from whatever is embedded. -/
theorem closed_and_acc_of_embeds {c : Catalog τ} {model : String}
    (h : ∀ target, c.Embeds model target → target ∈ c.names ∧ c.Closed target ∧
      Acc (fun target model => c.Embeds model target) target) :
    c.Closed model ∧ Acc (fun target model => c.Embeds model target) model := by
  constructor
  · intro other target hreach hembeds
    rcases hreach.cases_head with rfl | ⟨next, hfirst, hrest⟩
    · exact (h target hembeds).1
    · exact (h next hfirst).2.1 other target hrest hembeds
  · exact Acc.intro _ fun target htarget => (h target htarget).2.2

/-- No model within reach embeds itself if all walks end. -/
theorem acyclic_of_acc {c : Catalog τ} {start : String}
    (h : Acc (fun target model => c.Embeds model target) start) : c.Acyclic start :=
  fun _ hreach => not_transGen_self_of_acc (acc_of_reflTransGen h hreach)

/-- A cause that a model has within reach is within reach of whatever embeds the model. -/
theorem Cause.head {c : Catalog τ} {start next : String} {error : SchemaError}
    (hstep : c.Embeds start next) (h : c.Cause next error) : c.Cause start error := by
  cases h with
  | unresolved hreach hmodel hmentions hmissing =>
    exact .unresolved (hreach.head hstep) hmodel hmentions hmissing
  | cyclic hreach hcycle => exact .cyclic (hreach.head hstep) hcycle

/-- A model with the cause of an error within reach is not free of causes. -/
theorem Cause.not_closed_acyclic {c : Catalog τ} {start : String} {error : SchemaError}
    (h : c.Cause start error) : ¬ (c.Closed start ∧ c.Acyclic start) := by
  rintro ⟨hclosed, hacyclic⟩
  cases h with
  | unresolved hreach hmodel hmentions hmissing =>
    exact hmissing (hclosed _ _ hreach ⟨_, _, hmodel, hmentions⟩)
  | cyclic hreach hcycle => exact hacyclic _ hreach hcycle

/-! ## References of the compiler -/

section Compiler

variable [DecidableEq τ] {c : Catalog τ} {family : Family τ}

/-- A name is looked up in the catalog. -/
theorem resolve_named (model field target : String) :
    Scope.resolve ⟨family, some c⟩ model field (.named target) =
      match c.get? target with
      | some r => .ok r
      | none => .error (.unresolvedModel model field target) :=
  rfl

/-- A name resolves to the model of the catalog that has it. -/
theorem resolve_named_eq_ok_iff {model field target : String} {next : Registry τ} :
    Scope.resolve ⟨family, some c⟩ model field (.named target) = .ok next ↔
      c.get? target = some next := by
  rw [resolve_named]
  cases c.get? target with
  | none => simp
  | some r => simp

/-- A name that no model of the catalog has is unresolved. -/
theorem resolve_named_eq_error_iff {model field target : String} {error : SchemaError} :
    Scope.resolve ⟨family, some c⟩ model field (.named target) = .error error ↔
      target ∉ c.names ∧ error = .unresolvedModel model field target := by
  have hnone : target ∉ c.names ↔ c.get? target = none := findNamed_eq_none_iff.symm
  rw [resolve_named, hnone]
  cases c.get? target with
  | none => simp [eq_comm]
  | some r => simp

/-- A name is compiled by looking it up in the catalog. -/
theorem compileNamed_eq (name : String) :
    Scope.compileNamed ⟨family, some c⟩ name =
      match c.get? name with
      | some r => Scope.compile ⟨family, some c⟩ r
      | none => .error (.unknownModel name) :=
  rfl

/-- A declared model is compiled by expanding it on its own. -/
theorem compileNamed_of_get? {name : String} {r : Registry τ} (h : c.get? name = some r) :
    Scope.compileNamed ⟨family, some c⟩ name =
      (Scope.expand ⟨family, some c⟩ [] r).map .object := by
  rw [compileNamed_eq, h]
  rfl

/-! ## Errors have causes -/

/-- An error of the compiler has a cause within reach of the model, if the models on the path lead
to the model. -/
theorem cause_of_expand_eq_error (hc : c.Named) {path : List (Registry τ)} {r : Registry τ}
    {error : SchemaError} (hr : c.get? r.name = some r)
    (hpath : ∀ p ∈ path, p.key = .named p.name ∧ Relation.TransGen c.Embeds p.name r.name)
    (h : Scope.expand ⟨family, some c⟩ path r = .error error) : c.Cause r.name error := by
  have hkey : r.key = .named r.name := hc.key_eq r (of_findNamed hr).1
  induction path, r using Scope.expand.induct ⟨family, some c⟩ with
  | case1 path r hmem =>
    -- The key stands on the path, so the model of that key leads back to it.
    rw [Scope.expand_eq, if_pos hmem] at h
    cases h
    obtain ⟨p, hp, hpkey⟩ := List.mem_map.mp hmem
    obtain ⟨hpname, hwalk⟩ := hpath p hp
    have hname : p.name = r.name := by
      rw [hpname, hkey, ModelKey.named.injEq] at hpkey
      exact hpkey
    rw [hname] at hwalk
    exact .cyclic .refl hwalk
  | case2 path r hmem ih =>
    rw [Scope.expand_eq, if_neg hmem] at h
    obtain ⟨field, key, hmentions, hmodel⟩ := Registry.exists_mentions_of_document_eq_error h
    obtain ⟨target, rfl⟩ := hc.mentions r (of_findNamed hr).1 field key hmentions
    rcases bind_eq_error_iff.mp hmodel with hresolve | ⟨next, hnext, hexpand⟩
    · obtain ⟨hmissing, rfl⟩ := resolve_named_eq_error_iff.mp hresolve
      exact .unresolved .refl hr hmentions hmissing
    · have hget := resolve_named_eq_ok_iff.mp hnext
      obtain ⟨hnextmem, rfl⟩ := of_findNamed hget
      have hstep : c.Embeds r.name next.name := ⟨r, field, hr, hmentions⟩
      refine Cause.head hstep (ih field _ next hnext hget ?_ hexpand (hc.key_eq next hnextmem))
      intro p hp
      rcases List.mem_append.mp hp with hp | hp
      · exact ⟨(hpath p hp).1, (hpath p hp).2.tail hstep⟩
      · rw [List.mem_singleton.mp hp]
        exact ⟨hkey, .single hstep⟩

/-! ## A document leaves no cause -/

/-- From a model with a document every reference leads to a declared model, and every walk ends. -/
theorem closed_and_acc_of_expand_eq_ok {path : List (Registry τ)} {r : Registry τ}
    {document : Fragment} (hr : c.get? r.name = some r)
    (h : Scope.expand ⟨family, some c⟩ path r = .ok document) :
    c.Closed r.name ∧ Acc (fun target model => c.Embeds model target) r.name := by
  induction path, r using Scope.expand.induct ⟨family, some c⟩ generalizing document with
  | case1 path r hmem =>
    rw [Scope.expand_eq, if_pos hmem] at h
    cases h
  | case2 path r hmem ih =>
    have hdocument := (Scope.expand_eq_ok_iff.mp h).2
    -- Whatever the model embeds was resolved and has a document itself.
    refine closed_and_acc_of_embeds ?_
    rintro target ⟨r', field, hr', hmentions⟩
    obtain rfl : r = r' := by rwa [hr, Option.some.injEq] at hr'
    obtain ⟨mentioned, hmentioned⟩ := Registry.exists_of_mentions hdocument hmentions
    obtain ⟨next, hnext, hexpand⟩ := bind_eq_ok_iff.mp hmentioned
    have hget := resolve_named_eq_ok_iff.mp hnext
    obtain ⟨hnextmem, rfl⟩ := of_findNamed hget
    exact ⟨List.mem_map_of_mem hnextmem, ih field _ next hnext hget hexpand⟩

/-- Without a cause within reach, a model has a document. -/
theorem exists_expand_eq_ok (hc : c.Named) {r : Registry τ} (hr : c.get? r.name = some r)
    (hclosed : c.Closed r.name) (hacyclic : c.Acyclic r.name) :
    ∃ document, Scope.expand ⟨family, some c⟩ [] r = .ok document := by
  cases hexpand : Scope.expand ⟨family, some c⟩ [] r with
  | ok document => exact ⟨document, rfl⟩
  | error error =>
    have hcause : c.Cause r.name error := cause_of_expand_eq_error hc hr (by simp) hexpand
    exact absurd ⟨hclosed, hacyclic⟩ hcause.not_closed_acyclic

/-! ## Models with a schema -/

/-- A model has a document exactly if every reference within reach leads to a declared model and no
model within reach embeds itself; in every other case the compiler says that a model is unresolved
or cyclic. -/
theorem exists_compileNamed_iff {m : Manifest} (hc : ofManifest m = .ok c) {name : String}
    (hname : name ∈ c.names) :
    ((∃ document, Scope.compileNamed ⟨family, some c⟩ name = .ok document) ↔
      c.Closed name ∧ c.Acyclic name) ∧
    (¬ (c.Closed name ∧ c.Acyclic name) →
      (∃ model field target, Scope.compileNamed ⟨family, some c⟩ name =
        .error (.unresolvedModel model field target)) ∨
      ∃ model walk, Scope.compileNamed ⟨family, some c⟩ name =
        .error (.cyclicModel model walk)) := by
  have hnamed := named_of_ofManifest hc
  obtain ⟨r, hget⟩ := exists_get?_of_mem_names hname
  obtain ⟨-, rfl⟩ := of_findNamed hget
  simp only [compileNamed_of_get? hget, map_eq_ok_iff, map_eq_error_iff]
  refine ⟨⟨?_, ?_⟩, fun hfaulty => ?_⟩
  · rintro ⟨_, document, hexpand, -⟩
    obtain ⟨hclosed, hacc⟩ := closed_and_acc_of_expand_eq_ok hget hexpand
    exact ⟨hclosed, acyclic_of_acc hacc⟩
  · rintro ⟨hclosed, hacyclic⟩
    obtain ⟨document, hexpand⟩ := exists_expand_eq_ok hnamed hget hclosed hacyclic
    exact ⟨_, document, hexpand, rfl⟩
  · cases hexpand : Scope.expand ⟨family, some c⟩ [] r with
    | ok document =>
      obtain ⟨hclosed, hacc⟩ := closed_and_acc_of_expand_eq_ok hget hexpand
      exact absurd ⟨hclosed, acyclic_of_acc hacc⟩ hfaulty
    | error error =>
      cases cause_of_expand_eq_error hnamed hget (by simp) hexpand with
      | unresolved => exact Or.inl ⟨_, _, _, rfl⟩
      | cyclic => exact Or.inr ⟨_, _, rfl⟩

end Compiler

/-- The document of a person. -/
def personDocument : Fragment :=
  [("type", .string "object"),
    ("properties", .object
      [("name", .object [("type", .string "string"), ("minLength", .int 1)])]),
    ("required", .array [.string "name"])]

/-- The document of a part, which embeds a person and requires nothing. -/
def partDocument : Fragment :=
  [("type", .string "object"), ("properties", .object [("maker", .object personDocument)])]

/-- A folder has a model that embeds itself. -/
def folders : Manifest :=
  ⟨[⟨"folder", none, [⟨"parent", "embedded", false, some (.one "folder"), []⟩]⟩]⟩

/-- The models of folders. -/
def foldersCatalog : Catalog Empty :=
  ⟨[⟨"folder", .named "folder",
    [("parent", ⟨.embedded (.single (.model (.named "folder"))), false, []⟩)]⟩]⟩

theorem ofManifest_folders : ofManifest folders = .ok foldersCatalog := by
  cbv

theorem compileNamed_part :
    Scope.compileNamed ⟨.none, some assembliesCatalog⟩ "part" = .ok (.object partDocument) := by
  cbv

theorem embeds_folder : foldersCatalog.Embeds "folder" "folder" :=
  ⟨_, "parent", rfl, _, _, List.mem_singleton_self _, rfl, List.mem_singleton_self _⟩

/-- From a part no walk returns to where it was; a folder has no schema. -/
theorem closed_part_refused_folder :
    (assembliesCatalog.Closed "part" ∧ assembliesCatalog.Acyclic "part") ∧
    ((∃ model field target, Scope.compileNamed ⟨.none, some foldersCatalog⟩ "folder" =
        .error (.unresolvedModel model field target)) ∨
      ∃ model walk, Scope.compileNamed ⟨.none, some foldersCatalog⟩ "folder" =
        .error (.cyclicModel model walk)) := by
  constructor
  · have hname : "part" ∈ assembliesCatalog.names := by decide
    exact (exists_compileNamed_iff ofManifest_assemblies hname).1.mp ⟨_, compileNamed_part⟩
  · have hname : "folder" ∈ foldersCatalog.names := by decide
    refine (exists_compileNamed_iff ofManifest_folders hname).2 ?_
    rintro ⟨-, hacyclic⟩
    exact hacyclic "folder" .refl (.single embeds_folder)

end Catalog
end ModelSchema
