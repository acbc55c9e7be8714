import ModelSchema.Proofs.Manifest.Transcription
import ModelSchema.Proofs.Model.Publication
import ModelSchema.Proofs.Schema.Embedding

/-!
# Schemas of families and of manifests

Whether a reference is a type or a name makes no difference to a document, as long as it leads to
the same model.  Two registries that correspond have the same document under scopes in which keys
that stand for each other lead to registries that correspond; where one of them has none, since a
model embeds itself, neither has the other, and both are refused with the same walk.

Main results:

- Theorem `Registry.Corresponds.document_eq`: a document follows from those of the models referred
  to.
- Theorem `Scope.expand_congr`: corresponding registries under scopes that lead to the same.
- Theorem `Scope.cyclic_of_expand_eq_error`: where references lead somewhere, only cycles are
  refused.
- Theorem `Catalog.agrees_of_declares`: a family and its manifest have the same models and schemas.
-/

namespace ModelSchema

variable {τ τ' : Type} {K : ModelKey τ → ModelKey τ' → Prop}

/-! ## Fragments -/

section Fragments

variable {model : ModelKey τ → Except SchemaError Fragment}
  {model' : ModelKey τ' → Except SchemaError Fragment}

/-- Corresponding candidates have the same fragment. -/
theorem Candidate.Corresponds.fragment_eq {candidate : Candidate τ} {candidate' : Candidate τ'}
    (h : candidate.Corresponds K candidate')
    (hmodels : ∀ key key', K key key' → model key = model' key') :
    candidate.fragment model = candidate'.fragment model' := by
  cases h with
  | primitive kind => rfl
  | model hkey => exact hmodels _ _ hkey

/-- Corresponding candidates are the same branches of a choice. -/
theorem branches_eq_of_corresponds {candidates : List (Candidate τ)}
    {candidates' : List (Candidate τ')}
    (h : List.Forall₂ (Candidate.Corresponds K) candidates candidates')
    (hmodels : ∀ key key', K key key' → model key = model' key') :
    branches model candidates = branches model' candidates' := by
  induction h with
  | nil => rfl
  | cons hfirst _ ih => rw [branches, branches, hfirst.fragment_eq hmodels, ih]

/-- Corresponding targets have the same fragment. -/
theorem Target.Corresponds.fragment_eq {t : Target τ} {t' : Target τ'} (h : t.Corresponds K t')
    (hmodels : ∀ key key', K key key' → model key = model' key') :
    t.fragment model = t'.fragment model' := by
  have hbranches := branches_eq_of_corresponds h hmodels
  unfold Target.Corresponds at h
  rw [Target.fragment, Target.fragment]
  generalize t.toList = candidates, t'.toList = candidates' at h hbranches
  cases h with
  | nil => rfl
  | cons hfirst hrest =>
    cases hrest with
    | nil => exact hfirst.fragment_eq hmodels
    | cons _ _ =>
      dsimp only
      rw [hbranches]

/-- Shapes of the same kind with corresponding targets have the same fragment. -/
theorem Shape.fragment_eq_of_corresponds {s : Shape τ} {s' : Shape τ'} (hkind : s.kind = s'.kind)
    (htarget : Option.Rel (Target.Corresponds K) s.target? s'.target?)
    (hmodels : ∀ key key', K key key' → model key = model' key') :
    s.fragment model = s'.fragment model' := by
  cases s with
  | scalar kind =>
    cases s' with
    | scalar kind' =>
      obtain rfl : kind = kind' := FieldKind.scalar.inj hkind
      rfl
    | _ => cases hkind
  | embedded t =>
    cases s' with
    | embedded t' =>
      cases htarget with
      | some h => exact h.fragment_eq hmodels
    | _ => cases hkind
  | list t =>
    cases s' with
    | list t' =>
      cases htarget with
      | some h => rw [fragment, fragment, h.fragment_eq hmodels]
    | _ => cases hkind

/-- Corresponding fields have the same fragment. -/
theorem Field.Corresponds.fragment_eq {f : Field τ} {f' : Field τ'} (h : f.Corresponds K f')
    (hmodels : ∀ key key', K key key' → model key = model' key') :
    f.fragment model = f'.fragment model' := by
  rw [Field.fragment, Field.fragment, h.validators,
    Shape.fragment_eq_of_corresponds h.kind h.target hmodels]

end Fragments

/-! ## Documents -/

section Documents

variable {model : String → ModelKey τ → Except SchemaError Fragment}
  {model' : String → ModelKey τ' → Except SchemaError Fragment}

/-- Corresponding fields have the same properties. -/
theorem properties_eq_of_inStep {fields : OrderedMap (Field τ)} {fields' : OrderedMap (Field τ')}
    (h : OrderedMap.InStep (Field.Corresponds K) fields fields')
    (hmodels : ∀ field key key', K key key' → model field key = model' field key')
    (written : OrderedMap Json) :
    properties model fields written = properties model' fields' written := by
  unfold OrderedMap.InStep at h
  induction h generalizing written with
  | nil => rfl
  | @cons entry entry' _ _ hfirst _ ih =>
    obtain ⟨name, f⟩ := entry
    obtain ⟨name', f'⟩ := entry'
    obtain ⟨rfl, hfield⟩ := hfirst
    simp only [properties, hfield.fragment_eq (hmodels name), ih]

/-- Corresponding registries require the same fields. -/
theorem Registry.Corresponds.requiredNames_eq {r : Registry τ} {r' : Registry τ'}
    (h : r.Corresponds K r') : r.requiredNames = r'.requiredNames := by
  have hfields := h.fields
  unfold OrderedMap.InStep at hfields
  rw [Registry.requiredNames, Registry.requiredNames]
  generalize r.fields = fields, r'.fields = fields' at hfields
  induction hfields with
  | nil => rfl
  | cons hfirst _ ih =>
    rw [List.filter_cons, List.filter_cons, hfirst.2.required]
    split
    · rw [List.map_cons, List.map_cons, hfirst.1, ih]
    · exact ih

/-- Corresponding registries have the same document if keys that stand for each other have. -/
theorem Registry.Corresponds.document_eq {r : Registry τ} {r' : Registry τ'}
    (h : r.Corresponds K r')
    (hmodels : ∀ field key key', K key key' → model field key = model' field key') :
    r.document model = r'.document model' := by
  rw [Registry.document, Registry.document, properties_eq_of_inStep h.fields hmodels,
    h.requiredNames_eq]

/-- The models that a registry mentions have keys that others stand for, if another registry
corresponds to it. -/
theorem Registry.Corresponds.exists_key {r : Registry τ} {r' : Registry τ'}
    (h : r.Corresponds K r') {field : String} {key : ModelKey τ}
    (hmentions : r.Mentions field key) : ∃ key', K key key' := by
  obtain ⟨f, target, hfield, htarget, hkey⟩ := hmentions
  obtain ⟨entry', -, -, hf⟩ := exists_partner_of_mem_left h.fields hfield
  have hrelated := hf.target
  rw [htarget] at hrelated
  rcases optionRel_iff.mp hrelated with ⟨hnone, -⟩ | ⟨t, t', ht, -, hcandidates⟩
  · cases hnone
  · obtain rfl : target = t := Option.some.inj ht
    obtain ⟨candidate', -, hcandidate⟩ := exists_partner_of_mem_left hcandidates hkey
    cases hcandidate with
    | model hstands => exact ⟨_, hstands⟩

end Documents

/-! ## Scopes -/

namespace Scope

/-- Keys on corresponding paths stand in the same places. -/
theorem mem_keys_iff (hone : ∀ a a' b b', K a a' → K b b' → (a = b ↔ a' = b'))
    {path : List (Registry τ)} {path' : List (Registry τ')} {r : Registry τ} {r' : Registry τ'}
    (hpath : List.Forall₂ (Registry.Corresponds K) path path') (hr : r.Corresponds K r') :
    r.key ∈ path.map (·.key) ↔ r'.key ∈ path'.map (·.key) := by
  induction hpath with
  | nil => simp
  | cons hfirst _ ih =>
    simp only [List.map_cons, List.mem_cons, ih, hone _ _ _ _ hr.key hfirst.key]

variable [DecidableEq τ] [DecidableEq τ'] {scope : Scope τ} {scope' : Scope τ'}

/-- Under two scopes, keys that stand for each other lead to registries that correspond. -/
def LeadAlike (K : ModelKey τ → ModelKey τ' → Prop) (scope : Scope τ) (scope' : Scope τ') : Prop :=
  ∀ model field key key', K key key' → ∃ r r', scope.resolve model field key = .ok r ∧
    scope'.resolve model field key' = .ok r' ∧ r.Corresponds K r'

/-- Corresponding registries on corresponding paths close the same cycle. -/
theorem cycle_eq (hone : ∀ a a' b b', K a a' → K b b' → (a = b ↔ a' = b'))
    {path : List (Registry τ)} {path' : List (Registry τ')} {r : Registry τ} {r' : Registry τ'}
    (hpath : List.Forall₂ (Registry.Corresponds K) path path') (hr : r.Corresponds K r') :
    cycle path r = cycle path' r' := by
  have hnames : ∀ {rest : List (Registry τ)} {rest' : List (Registry τ')},
      List.Forall₂ (Registry.Corresponds K) rest rest' →
        rest.map (·.name) = rest'.map (·.name) := by
    intro rest rest' hrest
    induction hrest with
    | nil => rfl
    | cons hfirst _ ih => rw [List.map_cons, List.map_cons, hfirst.name, ih]
  rw [cycle, cycle, hr.name]
  congr 1
  induction hpath with
  | nil => rfl
  | @cons first first' rest rest' hfirst hrest ih =>
    have hsame := hone _ _ _ _ hfirst.key hr.key
    by_cases hkey : first.key = r.key
    · have hkey' := hsame.mp hkey
      simp only [List.dropWhile_cons, hkey, hkey', ne_eq, not_true_eq_false, decide_false]
      exact hnames (.cons hfirst hrest)
    · have hkey' : first'.key ≠ r'.key := fun heq => hkey (hsame.mpr heq)
      simp only [List.dropWhile_cons, ne_eq, hkey, hkey', not_false_eq_true, decide_true]
      exact ih

/-- Corresponding registries at the ends of corresponding paths have the same document or are
refused with the same error. -/
theorem expand_congr (hone : ∀ a a' b b', K a a' → K b b' → (a = b ↔ a' = b'))
    (hscopes : LeadAlike K scope scope') {path : List (Registry τ)} {path' : List (Registry τ')}
    {r : Registry τ} {r' : Registry τ'}
    (hpath : List.Forall₂ (Registry.Corresponds K) path path') (hr : r.Corresponds K r') :
    scope.expand path r = scope'.expand path' r' := by
  induction path, r using expand.induct scope generalizing path' r' with
  | case1 path r hmem =>
    rw [expand_eq, expand_eq, if_pos hmem, if_pos ((mem_keys_iff hone hpath hr).mp hmem), hr.name,
      cycle_eq hone hpath hr]
  | case2 path r hmem ih =>
    have hmem' : r'.key ∉ path'.map (·.key) := fun h => hmem ((mem_keys_iff hone hpath hr).mpr h)
    rw [expand_eq, expand_eq, if_neg hmem, if_neg hmem']
    refine hr.document_eq fun field key key' hkey => ?_
    obtain ⟨next, next', hnext, hnext', hcorresponds⟩ := hscopes r.name field key key' hkey
    rw [← hr.name, hnext, hnext']
    exact ih field key next hnext (List.rel_append hpath (.cons hr .nil)) hcorresponds

/-- Where all keys lead to registries, a registry is refused only because of a cycle. -/
theorem cyclic_of_expand_eq_error (hscopes : LeadAlike K scope scope') {path : List (Registry τ)}
    {r : Registry τ} {r' : Registry τ'} (hr : r.Corresponds K r') {error : SchemaError}
    (h : scope.expand path r = .error error) : ∃ model walk, error = .cyclicModel model walk := by
  induction path, r using expand.induct scope generalizing r' with
  | case1 path r hmem =>
    rw [expand_eq, if_pos hmem] at h
    cases h
    exact ⟨_, _, rfl⟩
  | case2 path r hmem ih =>
    rw [expand_eq, if_neg hmem] at h
    obtain ⟨field, key, hmentions, hmodel⟩ := Registry.exists_mentions_of_document_eq_error h
    obtain ⟨key', hkey⟩ := hr.exists_key hmentions
    obtain ⟨next, next', hnext, -, hcorresponds⟩ := hscopes r.name field key key' hkey
    rw [hnext] at hmodel
    exact ih field key next hnext hcorresponds hmodel

end Scope

/-! ## Families and manifests -/

namespace ModelKey

variable {nameOf : τ → String}

/-- Under different names, types and names stand for each other one to one. -/
theorem NamedBy.eq_iff (hinjective : Function.Injective nameOf) {a b : ModelKey τ}
    {a' b' : ModelKey τ'} (ha : NamedBy nameOf a a') (hb : NamedBy nameOf b b') :
    a = b ↔ a' = b' := by
  cases ha
  cases hb
  rw [typed.injEq, named.injEq, hinjective.eq_iff]

end ModelKey

namespace Catalog

variable [DecidableEq τ] [DecidableEq τ'] {m : Manifest} {family : Family τ} {c : Catalog τ'}

/-- Types lead to the same models in a family as their names in the catalog of a manifest that
declares it. -/
theorem leadAlike_of_declares (hm : m.Declares family)
    (hnames : ∀ t, ScalarKind.ofName? (family.name t) = none) (hc : ofManifest m = .ok c)
    (catalog : Option (Catalog τ)) (other : Family τ') :
    Scope.LeadAlike (ModelKey.NamedBy family.name) ⟨family, catalog⟩ ⟨other, some c⟩ := by
  rintro model field _ _ ⟨t⟩
  obtain ⟨r, r', hbuild, hget, hcorresponds⟩ := exists_build_of_ofManifest hm hnames hc t
  refine ⟨r, r', ?_, resolve_named_eq_ok_iff.mpr hget, hcorresponds⟩
  exact mapError_eq_ok_iff.mpr hbuild

/-- Let a manifest with a catalog declare a family whose types have different names, none of which
is that of a kind.  A request for a type, whatever was requested before, yields a registry with the
same fields in the same order as the registry in the catalog under the name of the type: of the same
names and kinds, with the same marks and validators, and with candidates of which types stand for
names.  Type and name are compiled to the same document, or both are refused because of the same
model that embeds itself, along the same path. -/
theorem agrees_of_declares (hm : m.Declares family) (hinjective : Function.Injective family.name)
    (hnames : ∀ t, ScalarKind.ofName? (family.name t) = none) (hc : ofManifest m = .ok c) (t : τ) :
    (∃ r r', (∀ requests, (family.request t (family.after requests)).1 = .ok r) ∧
      c.get? (family.name t) = some r' ∧ r.Corresponds (ModelKey.NamedBy family.name) r') ∧
    ∀ (catalog : Option (Catalog τ)) (other : Family τ'),
      (∃ document, Scope.compileType ⟨family, catalog⟩ t = .ok document ∧
        Scope.compileNamed ⟨other, some c⟩ (family.name t) = .ok document) ∨
      ∃ model path, Scope.compileType ⟨family, catalog⟩ t = .error (.cyclicModel model path) ∧
        Scope.compileNamed ⟨other, some c⟩ (family.name t) = .error (.cyclicModel model path) := by
  obtain ⟨r, r', hbuild, hget, hcorresponds⟩ := exists_build_of_ofManifest hm hnames hc t
  refine ⟨⟨r, r', fun requests => ?_, hget, hcorresponds⟩, fun catalog other => ?_⟩
  · obtain ⟨hpending, hunderWay⟩ := family.pending_after requests t
    rw [hpending.agrees.answer, hunderWay]
    exact hbuild
  · have hscopes := leadAlike_of_declares hm hnames hc catalog other
    have hexpand : Scope.expand ⟨family, catalog⟩ [] r = Scope.expand ⟨other, some c⟩ [] r' :=
      Scope.expand_congr (fun _ _ _ _ => ModelKey.NamedBy.eq_iff hinjective) hscopes .nil
        hcorresponds
    have htype : Scope.compileType ⟨family, catalog⟩ t =
        (Scope.expand ⟨other, some c⟩ [] r').map .object := by
      rw [Scope.compileType, hbuild, ← hexpand]
      rfl
    rw [htype, compileNamed_of_get? hget]
    cases hdocument : Scope.expand ⟨other, some c⟩ [] r' with
    | ok document => exact .inl ⟨_, rfl, rfl⟩
    | error error =>
      obtain ⟨model, path, rfl⟩ :=
        Scope.cyclic_of_expand_eq_error hscopes hcorresponds (hexpand.trans hdocument)
      exact .inr ⟨model, path, rfl, rfl⟩

/-- The types of an office. -/
inductive OfficeType where
  | person | employee | folder
deriving DecidableEq

/-- Persons, employees, who are persons with a text or a person as a contact, and folders with
folders in them. -/
def offices : Family OfficeType where
  all := [.person, .employee, .folder]
  mem_all t := by cases t <;> decide
  name
    | .person => "person"
    | .employee => "employee"
    | .folder => "folder"
  declare
    | .person => [.field "name" ⟨.scalar .string, true, [.length 1 none]⟩]
    | .employee =>
      [.field "contact"
        ⟨.embedded (.candidates [.primitive .string, .model (.typed .person)]), false, []⟩,
        .inherit .person]
    | .folder => [.field "folders" ⟨.list (.single (.model (.typed .folder))), false, []⟩]

/-- The same models as entries. -/
def officesManifest : Manifest :=
  ⟨[⟨"folder", none, [⟨"folders", "list", false, some (.one "folder"), []⟩]⟩,
    ⟨"employee", some "person",
      [⟨"contact", "embedded", false, some (.many ["string", "person"]), []⟩]⟩,
    ⟨"person", none, [⟨"name", "string", true, none, [.length 1 none]⟩]⟩]⟩

/-- The catalog of the entries. -/
def officesCatalog : Catalog Empty :=
  ⟨[⟨"folder", .named "folder",
      [("folders", ⟨.list (.single (.model (.named "folder"))), false, []⟩)]⟩,
    ⟨"employee", .named "employee",
      [("name", ⟨.scalar .string, true, [.length 1 none]⟩),
        ("contact",
          ⟨.embedded (.candidates [.primitive .string, .model (.named "person")]), false, []⟩)]⟩,
    ⟨"person", .named "person", [("name", ⟨.scalar .string, true, [.length 1 none]⟩)]⟩]⟩

theorem ofManifest_offices : ofManifest officesManifest = .ok officesCatalog := by
  cbv

theorem declares_offices : officesManifest.Declares offices := by
  have hkind : Candidate.WrittenAs offices.name (.primitive .string) "string" := .primitive _
  have hperson : Candidate.WrittenAs offices.name (.model (.typed .person)) "person" :=
    .model OfficeType.person
  have hfolder : Candidate.WrittenAs offices.name (.model (.typed .folder)) "folder" :=
    .model OfficeType.folder
  intro t
  cases t with
  | person =>
    exact ⟨_, List.mem_of_getLast? rfl, rfl, by simp [offices, Action.Plain], rfl,
      .cons ⟨rfl, rfl, rfl, .none, .cons rfl .nil⟩ .nil⟩
  | employee =>
    exact ⟨_, List.mem_cons_of_mem _ List.mem_cons_self, rfl, by simp [offices, Action.Plain],
      rfl, .cons ⟨rfl, rfl, rfl, .some (.cons hkind (.cons hperson .nil)), .nil⟩ .nil⟩
  | folder =>
    exact ⟨_, List.mem_cons_self, rfl, by simp [offices, Action.Plain], rfl,
      .cons ⟨rfl, rfl, rfl, .some (.cons hfolder .nil), .nil⟩ .nil⟩

/-- The document of an employee. -/
def employeeDocument : Fragment :=
  [("type", .string "object"),
    ("properties", .object
      [("name", .object [("type", .string "string"), ("minLength", .int 1)]),
        ("contact", .object
          [("oneOf", .array [.object [("type", .string "string")], .object personDocument])])]),
    ("required", .array [.string "name"])]

theorem compileNamed_employee : Scope.compileNamed ⟨.none, some officesCatalog⟩ "employee" =
    .ok (.object employeeDocument) := by
  cbv

theorem compileNamed_folder : Scope.compileNamed ⟨.none, some officesCatalog⟩ "folder" =
    .error (.cyclicModel "folder" ["folder", "folder"]) := by
  cbv

/-- As a type, an employee has the fields of the entry, whatever was requested before, and is
compiled to the same document; a folder is refused in the same way. -/
theorem compileType_offices :
    (∀ requests, ∃ r, (offices.request .employee (offices.after requests)).1 = .ok r ∧
      r.fieldNames = ["name", "contact"]) ∧
    Scope.compileType ⟨offices, none⟩ .employee = .ok (.object employeeDocument) ∧
    Scope.compileType ⟨offices, none⟩ .folder =
      .error (.cyclicModel "folder" ["folder", "folder"]) := by
  have hinjective : Function.Injective offices.name := by
    intro s t h
    cases s <;> cases t <;> first | rfl | exact absurd h (by decide)
  have hnames : ∀ t, ScalarKind.ofName? (offices.name t) = none := by
    intro t
    cases t <;> decide
  have hagrees := agrees_of_declares declares_offices hinjective hnames ofManifest_offices
  refine ⟨fun requests => ?_, ?_, ?_⟩
  · obtain ⟨r, r', hrequest, hget, hcorresponds⟩ := (hagrees .employee).1
    refine ⟨r, hrequest requests, hcorresponds.fields.names_eq.trans ?_⟩
    cases hget
    rfl
  · have hnamed := compileNamed_employee
    rcases (hagrees .employee).2 none .none with ⟨document, htype, hsame⟩ | ⟨model, path, -, hsame⟩
    · cases hnamed.symm.trans hsame
      exact htype
    · cases hnamed.symm.trans hsame
  · have hnamed := compileNamed_folder
    rcases (hagrees .folder).2 none .none with ⟨document, -, hsame⟩ | ⟨model, path, htype, hsame⟩
    · cases hnamed.symm.trans hsame
    · cases hnamed.symm.trans hsame
      exact htype

end Catalog
end ModelSchema
