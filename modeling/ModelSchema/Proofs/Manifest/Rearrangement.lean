import ModelSchema.Proofs.Manifest.Flattening
import ModelSchema.Proofs.Schema.Matching

/-!
# Declarations in another order

A manifest may be written with its models, the fields of each model and the candidates of each
target in another order.  The models then inherit in the same way: each has the same fields, each of
the same form up to the order of candidates, though not in the same places.

Main results:

- Theorem `FieldEntry.Rearranged.exists_build`: what becomes a field becomes one of the same form.
- Theorem `Manifest.Resolves.exists_rearranged`: models resolve to registries with the same fields.
- Theorem `Catalog.exists_rearranged`: a manifest in another order has a catalog with them.
-/

namespace ModelSchema

variable {τ : Type}

/-! ## Entries -/

/-- A target with its candidates in another order. -/
inductive TargetEntry.Rearranged : TargetEntry → TargetEntry → Prop where
  | one (name : String) : Rearranged (.one name) (.one name)
  | many {names names' : List String} (h : names.Perm names') :
      Rearranged (.many names) (.many names')

/-- A field with the candidates of its target in another order. -/
structure FieldEntry.Rearranged (entry entry' : FieldEntry) : Prop where
  name : entry.name = entry'.name
  kind : entry.kind = entry'.kind
  required : entry.required = entry'.required
  target : Option.Rel TargetEntry.Rearranged entry.target entry'.target
  rules : entry.rules = entry'.rules

/-- A model with its fields in another order, and each of them in another order. -/
structure ModelEntry.Rearranged (entry entry' : ModelEntry) : Prop where
  name : entry.name = entry'.name
  parent : entry.parent = entry'.parent
  fields : Multiset.Rel FieldEntry.Rearranged (entry.fields : Multiset FieldEntry)
    (entry'.fields : Multiset FieldEntry)

/-- A manifest with its models in another order, and each of them in another order. -/
def Manifest.Rearranged (m m' : Manifest) : Prop :=
  Multiset.Rel ModelEntry.Rearranged (m.models : Multiset ModelEntry)
    (m'.models : Multiset ModelEntry)

/-! ## Registries -/

/-- A shape with the candidates of its target in another order. -/
inductive Shape.Rearranged : Shape τ → Shape τ → Prop where
  | scalar (kind : ScalarKind) : Rearranged (.scalar kind) (.scalar kind)
  | embedded {t t' : Target τ} (h : t.toList.Perm t'.toList) :
      Rearranged (.embedded t) (.embedded t')
  | list {t t' : Target τ} (h : t.toList.Perm t'.toList) : Rearranged (.list t) (.list t')

/-- A field with the candidates of its target in another order. -/
structure Field.Rearranged (f f' : Field τ) : Prop where
  shape : f.shape.Rearranged f'.shape
  required : f.required = f'.required
  validators : f.validators = f'.validators

/-- Registries with the same fields, up to order. -/
structure Registry.Rearranged (r r' : Registry τ) : Prop where
  name : r.name = r'.name
  fields : OrderedMap.Related (fun _ => Field.Rearranged) r.fields r'.fields

/-- Catalogs with the same models, up to order. -/
def Catalog.Rearranged (c c' : Catalog τ) : Prop :=
  ∀ name, Option.Rel Registry.Rearranged (c.get? name) (c'.get? name)

namespace Shape.Rearranged

variable {s s' : Shape τ}

theorem symm (h : s.Rearranged s') : s'.Rearranged s := by
  cases h with
  | scalar kind => exact .scalar kind
  | embedded h => exact .embedded h.symm
  | list h => exact .list h.symm

/-- A target has the same candidates, in another order. -/
theorem exists_target? (h : s.Rearranged s') {t : Target τ} (ht : s.target? = some t) :
    ∃ t', s'.target? = some t' ∧ t.toList.Perm t'.toList := by
  cases h with
  | scalar kind => cases ht
  | embedded h =>
    cases ht
    exact ⟨_, rfl, h⟩
  | list h =>
    cases ht
    exact ⟨_, rfl, h⟩

/-- Candidates are not lost by listing them in another order. -/
theorem lacksCandidates_eq (h : s.Rearranged s') : s.lacksCandidates = s'.lacksCandidates := by
  cases h with
  | scalar kind => rfl
  | embedded h => simp [Shape.lacksCandidates, Shape.target?, Target.isEmpty, h.isEmpty_eq]
  | list h => simp [Shape.lacksCandidates, Shape.target?, Target.isEmpty, h.isEmpty_eq]

end Shape.Rearranged

theorem Field.Rearranged.symm {f f' : Field τ} (h : f.Rearranged f') : f'.Rearranged f :=
  ⟨h.shape.symm, h.required.symm, h.validators.symm⟩

theorem Registry.Rearranged.symm {r r' : Registry τ} (h : r.Rearranged r') : r'.Rearranged r :=
  ⟨h.name.symm, h.fields.symm fun _ _ _ => Field.Rearranged.symm⟩

namespace Catalog.Rearranged

variable {c c' : Catalog τ}

theorem symm (h : c.Rearranged c') : c'.Rearranged c := by
  intro name
  rcases optionRel_iff.mp (h name) with ⟨hnone, hnone'⟩ | ⟨r, r', hr, hr', hrel⟩
  · rw [hnone, hnone']
    exact .none
  · rw [hr, hr']
    exact .some hrel.symm

/-- A model of a catalog has the same fields in the other one. -/
theorem exists_get? (h : c.Rearranged c') {name : String} {r : Registry τ}
    (hr : c.get? name = some r) : ∃ r', c'.get? name = some r' ∧ r.Rearranged r' := by
  have hname := h name
  rw [hr, optionRel_iff] at hname
  rcases hname with ⟨hnone, -⟩ | ⟨_, r', hsome, hr', hrel⟩
  · cases hnone
  · cases hsome
    exact ⟨r', hr', hrel⟩

end Catalog.Rearranged

/-! ## Fields -/

theorem TargetEntry.Rearranged.toList_perm {target target' : TargetEntry}
    (h : target.Rearranged target') :
    (target.build (τ := τ)).toList.Perm target'.build.toList := by
  cases h with
  | one name => exact .refl _
  | many h => exact h.map Candidate.ofName

/-- For a shape there is one of the same kind with the target in another order. -/
theorem Shape.exists_rearranged {shape : Shape τ} {target target' : Option TargetEntry}
    (h : Option.Rel TargetEntry.Rearranged target target')
    (hshape : shape.target? = target.map TargetEntry.build) :
    ∃ shape', shape.Rearranged shape' ∧ shape'.kind = shape.kind ∧
      shape'.target? = target'.map TargetEntry.build := by
  cases h with
  | none =>
    cases shape with
    | scalar kind => exact ⟨_, .scalar kind, rfl, rfl⟩
    | embedded t => cases hshape
    | list t => cases hshape
  | some h =>
    cases shape with
    | scalar kind => cases hshape
    | embedded t =>
      cases hshape
      exact ⟨_, .embedded h.toList_perm, rfl, rfl⟩
    | list t =>
      cases hshape
      exact ⟨_, .list h.toList_perm, rfl, rfl⟩

/-- What becomes a field becomes one of the same form with the candidates in another order. -/
theorem FieldEntry.Rearranged.exists_build {entry entry' : FieldEntry}
    (h : entry.Rearranged entry') {f : Field τ} (hbuild : entry.build = .ok f) :
    ∃ f', entry'.build = .ok f' ∧ f.Rearranged f' := by
  obtain ⟨hkind, htarget, hrequired, hrules⟩ := build_eq_ok_iff.mp hbuild
  obtain ⟨shape, hshape, hkind', htarget'⟩ := Shape.exists_rearranged h.target htarget
  refine ⟨⟨shape, f.required, f.validators⟩, build_eq_ok_iff.mpr ?_, hshape, rfl, rfl⟩
  rw [hkind', hkind, ← h.kind, ← h.required, ← h.rules]
  exact ⟨rfl, htarget', hrequired, hrules⟩

theorem FieldEntry.Rearranged.wellFormed {entry entry' : FieldEntry} (h : entry.Rearranged entry')
    (hentry : entry.WellFormed) : entry'.WellFormed := by
  obtain ⟨f, hbuild, hlacks⟩ := (wellFormed_iff (τ := Empty)).mp hentry
  obtain ⟨f', hbuild', hf⟩ := h.exists_build hbuild
  exact wellFormed_iff.mpr ⟨f', hbuild', hf.shape.lacksCandidates_eq ▸ hlacks⟩

/-! ## Models -/

namespace ModelEntry.Rearranged

variable {entry entry' : ModelEntry}

theorem fieldNames_perm (h : entry.Rearranged entry') :
    entry.fieldNames.Perm entry'.fieldNames :=
  map_perm_of_rel h.fields fun _ _ hfield => hfield.name

theorem wellFormed (h : entry.Rearranged entry') (hentry : entry.WellFormed) :
    entry'.WellFormed := by
  refine ⟨fun field' hfield' => ?_, h.fieldNames_perm.nodup_iff.mp hentry.nodup⟩
  obtain ⟨field, hfield, hfields⟩ := exists_partner_of_rel (Multiset.rel_flip.mpr h.fields) hfield'
  exact FieldEntry.Rearranged.wellFormed hfields (hentry.fields field hfield)

end ModelEntry.Rearranged

namespace Manifest

variable {m m' : Manifest}

/-- Fields that were written in another order have the same names and forms. -/
theorem BuiltFields.related {entries entries' : List FieldEntry} {own own' : OrderedMap (Field τ)}
    (h : BuiltFields entries own) (h' : BuiltFields entries' own')
    (hnodup : (OrderedMap.names own).Nodup) (hnodup' : (OrderedMap.names own').Nodup)
    (hentries : Multiset.Rel FieldEntry.Rearranged (entries : Multiset FieldEntry)
      (entries' : Multiset FieldEntry)) :
    OrderedMap.Related (fun _ => Field.Rearranged) own own' := by
  have hnames : (OrderedMap.names own).Perm (OrderedMap.names own') := by
    rw [h.names_eq, h'.names_eq]
    exact map_perm_of_rel hentries fun _ _ hfield => hfield.name
  refine OrderedMap.related_iff.mpr ⟨fun name => hnames.mem_iff, fun name f f' hf hf' => ?_⟩
  obtain ⟨entry, hentry, rfl, hbuild⟩ := (h.value?_eq_some_iff hnodup).mp hf
  obtain ⟨entry', hentry', hrearranged⟩ := exists_partner_of_rel hentries hentry
  obtain ⟨found, hbuild', hfound⟩ := hrearranged.exists_build hbuild
  have hvalue : OrderedMap.value? own' entry.name = some found :=
    (h'.value?_eq_some_iff hnodup').mpr ⟨entry', hentry', hrearranged.name.symm, hbuild'⟩
  obtain rfl : f' = found := by simpa [hf'] using hvalue
  exact hfound

/-- Over parents with the same fields, a model resolves to the same fields. -/
theorem exists_resolve_rearranged {entry entry' : ModelEntry} (h : entry.Rearranged entry')
    {parent parent' : Option (Registry τ)} (hrel : Option.Rel Registry.Rearranged parent parent')
    (hparent : ∀ p ∈ parent, p.fieldNames.Nodup) (hparent' : ∀ p ∈ parent', p.fieldNames.Nodup)
    {r : Registry τ} (hresolve : resolve entry parent = .ok r) :
    ∃ r', resolve entry' parent' = .ok r' ∧ r.Rearranged r' := by
  have hentry : entry.WellFormed := exists_resolve_iff.mp ⟨r, hresolve⟩
  obtain ⟨r', hresolve'⟩ := exists_resolve_iff.mpr (h.wellFormed hentry)
  refine ⟨r', hresolve', ?_⟩
  obtain ⟨own, hown, hbuild⟩ := resolve_eq_ok_iff.mp hresolve
  obtain ⟨own', hown', hbuild'⟩ := resolve_eq_ok_iff.mp hresolve'
  obtain ⟨-, hnodup, -, rfl⟩ := Declaration.build_eq_ok_iff.mp hbuild
  obtain ⟨-, hnodup', -, rfl⟩ := Declaration.build_eq_ok_iff.mp hbuild'
  have hrelated := hown.related hown' hnodup hnodup' h.fields
  refine ⟨h.name, .putAll ?_ (hrelated.reverse hnodup hnodup')⟩
  -- What is inherited was written into nothing, and is related because the parents are.
  have hnil : OrderedMap.Related (fun _ => Field.Rearranged (τ := τ)) [] [] := fun _ => .none
  cases hrel with
  | none => exact hnil
  | some hp => exact hnil.putAll (hp.fields.reverse (hparent _ rfl) (hparent' _ rfl))

/-! ## Manifests -/

theorem Rearranged.names_perm (h : m.Rearranged m') : m.names.Perm m'.names :=
  map_perm_of_rel h fun _ _ hentry => hentry.name

/-- A model is found under its name, in another order. -/
theorem Rearranged.exists_find? (h : m.Rearranged m') (hnodup : m.names.Nodup) {name : String}
    {entry : ModelEntry} (hfind : m.find? name = some entry) :
    ∃ entry', m'.find? name = some entry' ∧ entry.Rearranged entry' := by
  obtain ⟨hmem, rfl⟩ := of_findNamed hfind
  obtain ⟨entry', hmem', hentry⟩ := exists_partner_of_rel h hmem
  refine ⟨entry', ?_, hentry⟩
  rw [hentry.name]
  exact findNamed_of_mem (h.names_perm.nodup_iff.mp hnodup) hmem'

/-- A model resolves to a registry with the same fields. -/
theorem Resolves.exists_rearranged (hm : m.Rearranged m') (hnodup : m.names.Nodup)
    {entry entry' : ModelEntry} (hentry : entry.Rearranged entry') {r : Registry τ}
    (h : m.Resolves entry r) : ∃ r', m'.Resolves entry' r' ∧ r.Rearranged r' := by
  induction h generalizing entry' with
  | root hparent hresolve =>
    obtain ⟨r', hresolve', hr⟩ :=
      exists_resolve_rearranged hentry .none (by simp) (by simp) hresolve
    exact ⟨r', .root (hentry.parent ▸ hparent) hresolve', hr⟩
  | child hparent hnext hp hresolve ih =>
    obtain ⟨next', hnext', hnextEntry⟩ := hm.exists_find? hnodup hnext
    obtain ⟨p', hp', hparents⟩ := ih hnextEntry
    obtain ⟨r', hresolve', hr⟩ := exists_resolve_rearranged hentry (.some hparents)
      (by simpa using hp.nodup_fieldNames) (by simpa using hp'.nodup_fieldNames) hresolve
    exact ⟨r', .child (hentry.parent ▸ hparent) hnext' hp' hresolve', hr⟩

end Manifest

/-! ## Catalogs -/

namespace Catalog

open Manifest

/-- A manifest in another order has a catalog with the same models. -/
theorem exists_rearranged {m m' : Manifest} (hm : m.Rearranged m') {c : Catalog τ}
    (hc : ofManifest m = .ok c) : ∃ c' : Catalog τ, ofManifest m' = .ok c' ∧ c.Rearranged c' := by
  obtain ⟨hnodup, hall⟩ := resolves_of_ofManifest hc
  have hnodup' : m'.names.Nodup := hm.names_perm.nodup_iff.mp hnodup
  have hwellFormed : m'.WellFormed := by
    refine wellFormed_of_resolves (τ := τ) hnodup' fun entry' hentry' => ?_
    obtain ⟨entry, hentry, hrearranged⟩ := exists_partner_of_rel (Multiset.rel_flip.mpr hm) hentry'
    obtain ⟨r, -, hr⟩ := exists_partner_of_mem_left hall hentry
    obtain ⟨r', hr', -⟩ := hr.exists_rearranged hm hnodup hrearranged
    exact ⟨r', hr'⟩
  cases hc' : ofManifest (τ := τ) m' with
  | error error => exact absurd hwellFormed (not_wellFormed_of_ofManifest hc')
  | ok c' =>
    refine ⟨c', rfl, fun name => ?_⟩
    cases hget : c.get? name with
    | none =>
      have hnames : c.names.Perm c'.names := by
        rw [names_of_ofManifest hc, names_of_ofManifest hc']
        exact hm.names_perm
      have hnone : name ∉ c'.names :=
        fun hmem => findNamed_eq_none_iff.mp hget (hnames.mem_iff.mpr hmem)
      rw [show c'.get? name = none from findNamed_eq_none_iff.mpr hnone]
      exact .none
    | some r =>
      obtain ⟨entry, hfind, hr⟩ := (get?_eq_some_iff hc).mp hget
      obtain ⟨entry', hfind', hentry⟩ := hm.exists_find? hnodup hfind
      obtain ⟨r', hr', hrel⟩ := hr.exists_rearranged hm hnodup hentry
      rw [(get?_eq_some_iff hc').mpr ⟨entry', hfind', hr'⟩]
      exact .some hrel

end Catalog
end ModelSchema
