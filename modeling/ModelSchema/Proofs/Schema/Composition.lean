import ModelSchema.Proofs.Schema.Embedding

/-!
# Schemas put together from schemas

The schema of a model of a catalog consists of the schemas of the models that it mentions, each
as it is compiled on its own.  Where a model stands below others makes no difference to what it
expands to.

Main results:

- Theorem `Catalog.expand_eq_ok_iff_hasDocument`: one step of the compiler on a catalog.
- Theorem `Catalog.compileNamed_eq_ok_iff`: what the schema of a model of a catalog says.
-/

namespace ModelSchema

variable {τ : Type} [DecidableEq τ]

namespace Catalog

variable {c : Catalog τ} {family : Family τ}

/-- The documents of models that are compiled on their own, by name. -/
def Compiled (family : Family τ) (c : Catalog τ) (key : ModelKey τ) (document : Fragment) : Prop :=
  ∃ target, key = .named target ∧
    Scope.compileNamed ⟨family, some c⟩ target = .ok (.object document)

/-- A name with a document is that of a model. -/
theorem exists_get?_of_compileNamed {name : String} {document : Json}
    (h : Scope.compileNamed ⟨family, some c⟩ name = .ok document) :
    ∃ r, c.get? name = some r := by
  rw [compileNamed_eq] at h
  cases hget : c.get? name with
  | none =>
    rw [hget] at h
    cases h
  | some r => exact ⟨r, rfl⟩

/-- A model that is compiled on its own is declared, and expands to its document. -/
theorem compiled_named_iff {target : String} {document : Fragment} :
    c.Compiled family (.named target) document ↔
      ∃ next, c.get? target = some next ∧
        Scope.expand ⟨family, some c⟩ [] next = .ok document := by
  constructor
  · rintro ⟨name, heq, hcompile⟩
    cases heq
    obtain ⟨next, hget⟩ := exists_get?_of_compileNamed hcompile
    rw [compileNamed_of_get? hget, map_eq_ok_iff] at hcompile
    obtain ⟨found, hfound, heq⟩ := hcompile
    cases heq
    exact ⟨next, hget, hfound⟩
  · rintro ⟨next, hget, hexpand⟩
    refine ⟨target, rfl, ?_⟩
    rw [compileNamed_of_get? hget, hexpand]
    rfl

/-- A model expands to some document if the models that it mentions have documents of their own. -/
theorem exists_expand_of_hasDocument (hc : c.Named) {r : Registry τ}
    (hr : c.get? r.name = some r) {document : Fragment}
    (h : r.HasDocument (fun _ => c.Compiled family) document) :
    ∃ found, Scope.expand ⟨family, some c⟩ [] r = .ok found := by
  have hcauseless : c.Closed r.name ∧
      Acc (fun target model => c.Embeds model target) r.name := by
    refine closed_and_acc_of_embeds ?_
    rintro target ⟨r', field, hr', hmentions⟩
    obtain rfl : r = r' := by rwa [hr, Option.some.injEq] at hr'
    obtain ⟨mentioned, hmentioned⟩ := h.exists_document hmentions
    obtain ⟨next, hget, hexpand⟩ := compiled_named_iff.mp hmentioned
    obtain ⟨hnextmem, rfl⟩ := of_findNamed hget
    exact ⟨List.mem_map_of_mem hnextmem, closed_and_acc_of_expand_eq_ok hget hexpand⟩
  exact exists_expand_eq_ok hc hr hcauseless.1 (acyclic_of_acc hcauseless.2)

/-- A model of a catalog expands to what the documents of the mentioned models, each compiled on
its own, make of it. -/
theorem expand_eq_ok_iff_hasDocument (hc : c.Named) {r : Registry τ}
    (hr : c.get? r.name = some r) (hnodup : r.fieldNames.Nodup) {document : Fragment} :
    Scope.expand ⟨family, some c⟩ [] r = .ok document ↔
      r.HasDocument (fun _ => c.Compiled family) document := by
  have hmem := (of_findNamed hr).1
  have hstep : ∀ {document}, Scope.expand ⟨family, some c⟩ [] r = .ok document ↔
      r.HasDocument (fun field => Yields fun key =>
        Scope.resolve ⟨family, some c⟩ r.name field key >>=
          Scope.expand ⟨family, some c⟩ [r]) document := by
    intro document
    rw [Scope.expand_eq_ok_iff, Registry.document_eq_ok_iff hnodup]
    simp
  constructor
  · intro h
    refine (hstep.mp h).mono fun field key mentioned hmentions hyields => ?_
    obtain ⟨target, rfl⟩ := hc.mentions r hmem field key hmentions
    obtain ⟨next, hnext, hexpand⟩ := bind_eq_ok_iff.mp hyields
    exact compiled_named_iff.mpr
      ⟨next, resolve_named_eq_ok_iff.mp hnext, Scope.expand_nil hexpand⟩
  · intro h
    -- The model has some document, and the parts of that are the documents in hand.
    obtain ⟨found, hfound⟩ := exists_expand_of_hasDocument hc hr h
    refine hstep.mpr (h.mono fun field key mentioned hmentions hmentioned => ?_)
    obtain ⟨target, rfl⟩ := hc.mentions r hmem field key hmentions
    obtain ⟨next, hget, hexpand⟩ := compiled_named_iff.mp hmentioned
    have hresolve : Scope.resolve ⟨family, some c⟩ r.name field (.named target) = .ok next :=
      resolve_named_eq_ok_iff.mpr hget
    obtain ⟨below, hbelow⟩ := (hstep.mp hfound).exists_document hmentions
    rw [Yields, hresolve] at hbelow
    have heq : below = mentioned :=
      Except.ok.inj ((Scope.expand_nil hbelow).symm.trans hexpand)
    rw [Yields, hresolve, ← heq]
    exact hbelow

/-- The document of a model is made of the documents that the models it mentions have on their own,
in the way that `Registry.HasDocument` says; on whatever path it was computed, it is the one that
is computed without a path. -/
theorem compileNamed_eq_ok_iff {m : Manifest} (hc : ofManifest m = .ok c) (family : Family τ) :
    (∀ name document, Scope.compileNamed ⟨family, some c⟩ name = .ok document ↔
      ∃ r fragment, c.get? name = some r ∧ document = .object fragment ∧
        r.HasDocument (fun _ => c.Compiled family) fragment) ∧
    ∀ path r fragment, Scope.expand ⟨family, some c⟩ path r = .ok fragment →
      Scope.expand ⟨family, some c⟩ [] r = .ok fragment := by
  have hnamed := named_of_ofManifest hc
  have hstep : ∀ {name r fragment}, c.get? name = some r →
      (Scope.expand ⟨family, some c⟩ [] r = .ok fragment ↔
        r.HasDocument (fun _ => c.Compiled family) fragment) := by
    intro name r fragment hget
    obtain ⟨hmem, rfl⟩ := of_findNamed hget
    obtain ⟨entry, -, hentry⟩ := exists_partner_of_mem_right (resolves_of_ofManifest hc).2 hmem
    exact expand_eq_ok_iff_hasDocument hnamed hget hentry.nodup_fieldNames
  refine ⟨fun name document => ⟨fun h => ?_, ?_⟩, fun path r fragment => Scope.expand_nil⟩
  · obtain ⟨r, hget⟩ := exists_get?_of_compileNamed h
    rw [compileNamed_of_get? hget, map_eq_ok_iff] at h
    obtain ⟨fragment, hexpand, rfl⟩ := h
    exact ⟨r, fragment, hget, rfl, (hstep hget).mp hexpand⟩
  · rintro ⟨r, fragment, hget, rfl, hdocument⟩
    rw [compileNamed_of_get? hget, (hstep hget).mpr hdocument]
    rfl

/-- The document of an assembly lists the inherited field first, and has the documents of a person
and of a part within. -/
theorem compileNamed_assembly :
    Scope.compileNamed ⟨.none, some assembliesCatalog⟩ "assembly" =
      .ok (.object [("type", .string "object"),
        ("properties", .object [("owner", .object personDocument),
          ("parts", .object [("type", .string "array"),
            ("items", .object [("oneOf",
              .array [.object partDocument, .object [("type", .string "string")]])])])]),
        ("required", .array [.string "parts"])]) := by
  have hperson : assembliesCatalog.Compiled .none (.named "person") personDocument :=
    ⟨"person", rfl, by cbv⟩
  have hpart : assembliesCatalog.Compiled .none (.named "part") partDocument :=
    ⟨"part", rfl, compileNamed_part⟩
  refine ((compileNamed_eq_ok_iff ofManifest_assemblies .none).1 _ _).mpr
    ⟨_, _, rfl, rfl, _, .cons ?_ (.cons ?_ .nil), rfl⟩
  · exact ⟨rfl, _, rfl, _, .embedded (.only rfl (.model hperson)), rfl⟩
  · exact ⟨rfl, _, rfl, _, .list (.choice (by decide)
      (.cons (.model hpart) (.cons (.primitive .string) .nil))), rfl⟩

end Catalog
end ModelSchema
