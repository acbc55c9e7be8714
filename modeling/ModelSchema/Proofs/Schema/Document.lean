import ModelSchema.Proofs.Lists
import ModelSchema.Proofs.Model.Registry
import ModelSchema.Proofs.Outcome
import ModelSchema.Schema.Compile

/-!
# What the schema of a model says

The relations of this module say what the fragments of candidates, targets, shapes and fields and
the document of a model are, given the documents that models have.  A document is computed exactly
if it stands in the relation to what the models yield, and it is refused only because of a model
that is mentioned.

Main results:

- Theorem `Registry.document_eq_ok_iff`: which documents are computed.
- Theorem `Registry.document_mono`: a document stays the same if more models have one.
- Theorem `Registry.error?_document`: a document is refused with the error of the first reference.
- Theorem `Registry.exists_mentions_of_document_eq_error`: an error comes from a mentioned model.
-/

namespace ModelSchema

variable {τ : Type}

/-! ## Fragments as relations -/

/-- A kind has a fixed fragment; a model has the document of the model. -/
inductive Candidate.HasFragment (models : ModelKey τ → Fragment → Prop) :
    Candidate τ → Fragment → Prop where
  | primitive (kind : ScalarKind) : HasFragment models (.primitive kind) kind.fragment
  | model {key : ModelKey τ} {document : Fragment} (h : models key document) :
      HasFragment models (.model key) document

/-- A target with exactly one candidate has the fragment of that; any other target is a choice
with one branch for each candidate, in order. -/
inductive Target.HasFragment (models : ModelKey τ → Fragment → Prop) :
    Target τ → Fragment → Prop where
  | only {t : Target τ} {candidate : Candidate τ} {fragment : Fragment}
      (honly : t.toList = [candidate]) (h : candidate.HasFragment models fragment) :
      HasFragment models t fragment
  | choice {t : Target τ} {fragments : List Fragment} (hmany : t.toList.length ≠ 1)
      (h : List.Forall₂ (Candidate.HasFragment models) t.toList fragments) :
      HasFragment models t [("oneOf", .array (fragments.map .object))]

/-- A scalar has the fragment of its kind, an embedded value that of its target, and a list is an
array of the latter. -/
inductive Shape.HasFragment (models : ModelKey τ → Fragment → Prop) :
    Shape τ → Fragment → Prop where
  | scalar (kind : ScalarKind) : HasFragment models (.scalar kind) kind.fragment
  | embedded {t : Target τ} {fragment : Fragment} (h : t.HasFragment models fragment) :
      HasFragment models (.embedded t) fragment
  | list {t : Target τ} {items : Fragment} (h : t.HasFragment models items) :
      HasFragment models (.list t) [("type", .string "array"), ("items", .object items)]

/-- A field has the fragment of its shape, to which its validators contributed in order. -/
def Field.HasFragment (models : ModelKey τ → Fragment → Prop) (f : Field τ)
    (fragment : Fragment) : Prop :=
  ∃ base, f.shape.HasFragment models base ∧
    fragment = f.validators.foldl (fun written validator => validator.contribute written) base

/-- One property for each field, in order, with the fragment of the field. -/
def HasProperties (models : String → ModelKey τ → Fragment → Prop) :
    OrderedMap (Field τ) → OrderedMap Json → Prop :=
  List.Forall₂ fun entry property => property.1 = entry.1 ∧ ∃ fragment,
    property.2 = .object fragment ∧ entry.2.HasFragment (models entry.1) fragment

/-- An object with properties, of which those of the required fields have to be there. -/
def Registry.assemble (r : Registry τ) (properties : OrderedMap Json) : Fragment :=
  ("type", .string "object") :: ("properties", .object properties) ::
    if r.fields.any (·.2.required) then [("required", .array (r.requiredNames.map .string))]
    else []

/-- A model has the document that its properties and its required fields make up. -/
def Registry.HasDocument (models : String → ModelKey τ → Fragment → Prop) (r : Registry τ)
    (document : Fragment) : Prop :=
  ∃ properties, HasProperties models r.fields properties ∧ document = r.assemble properties

/-! ## Computed fragments -/

section Computed

variable {model : ModelKey τ → Except SchemaError Fragment} {fragment : Fragment}

/-- The documents of models that a computation yields. -/
def Yields (model : ModelKey τ → Except SchemaError Fragment) (key : ModelKey τ)
    (document : Fragment) : Prop :=
  model key = .ok document

theorem Candidate.fragment_eq_ok_iff {candidate : Candidate τ} :
    candidate.fragment model = .ok fragment ↔ candidate.HasFragment (Yields model) fragment := by
  cases candidate with
  | primitive kind =>
    constructor
    · intro h
      cases h
      exact .primitive kind
    · rintro ⟨⟩
      rfl
  | model key =>
    constructor
    · intro h
      exact .model h
    · rintro (_ | h)
      exact h

theorem branches_eq_ok_iff {candidates : List (Candidate τ)} {all : List Json} :
    branches model candidates = .ok all ↔
      ∃ fragments, List.Forall₂ (Candidate.HasFragment (Yields model)) candidates fragments ∧
        all = fragments.map .object := by
  induction candidates generalizing all with
  | nil => simp [branches, eq_comm]
  | cons candidate rest ih =>
    simp only [branches, bind_eq_ok_iff, Candidate.fragment_eq_ok_iff, ih,
      List.forall₂_cons_left_iff]
    constructor
    · rintro ⟨first, hfirst, _, ⟨others, hothers, rfl⟩, heq⟩
      cases heq
      exact ⟨first :: others, ⟨first, others, hfirst, hothers, rfl⟩, rfl⟩
    · rintro ⟨_, ⟨first, others, hfirst, hothers, rfl⟩, rfl⟩
      exact ⟨first, hfirst, _, ⟨others, hothers, rfl⟩, rfl⟩

theorem Target.fragment_eq_ok_iff {t : Target τ} :
    t.fragment model = .ok fragment ↔ t.HasFragment (Yields model) fragment := by
  unfold Target.fragment
  split
  · rename_i candidate honly
    rw [Candidate.fragment_eq_ok_iff]
    constructor
    · exact .only honly
    · rintro (⟨honly', h⟩ | ⟨hmany, h⟩)
      · rw [honly, List.cons.injEq] at honly'
        exact honly'.1 ▸ h
      · exact absurd (by rw [honly]; rfl) hmany
  · rename_i hmany
    simp only [map_eq_ok_iff, branches_eq_ok_iff]
    constructor
    · rintro ⟨_, ⟨fragments, h, rfl⟩, rfl⟩
      refine .choice (fun hlength => ?_) h
      obtain ⟨candidate, honly⟩ := List.length_eq_one_iff.mp hlength
      exact hmany candidate honly
    · rintro (⟨honly, h⟩ | ⟨-, h⟩)
      · exact absurd honly (hmany _)
      · exact ⟨_, ⟨_, h, rfl⟩, rfl⟩

theorem Shape.fragment_eq_ok_iff {s : Shape τ} :
    s.fragment model = .ok fragment ↔ s.HasFragment (Yields model) fragment := by
  cases s with
  | scalar kind =>
    constructor
    · intro h
      cases h
      exact .scalar kind
    · rintro ⟨⟩
      rfl
  | embedded t =>
    rw [Shape.fragment, Target.fragment_eq_ok_iff]
    constructor
    · exact .embedded
    · rintro (_ | h | _)
      exact h
  | list t =>
    simp only [Shape.fragment, map_eq_ok_iff, Target.fragment_eq_ok_iff]
    constructor
    · rintro ⟨items, h, rfl⟩
      exact .list h
    · rintro (_ | _ | h)
      exact ⟨_, h, rfl⟩

theorem Field.fragment_eq_ok_iff {f : Field τ} :
    f.fragment model = .ok fragment ↔ f.HasFragment (Yields model) fragment := by
  simp only [Field.fragment, map_eq_ok_iff, Shape.fragment_eq_ok_iff]
  constructor
  · rintro ⟨base, hbase, rfl⟩
    exact ⟨base, hbase, rfl⟩
  · rintro ⟨base, hbase, rfl⟩
    exact ⟨base, hbase, rfl⟩

end Computed

/-! ## Computed documents -/

section Document

variable {model model' : String → ModelKey τ → Except SchemaError Fragment} {r : Registry τ}
  {document : Fragment}

/-- Properties are computed one after another and written in that order. -/
theorem properties_eq_ok_iff {fields : OrderedMap (Field τ)}
    {written result : OrderedMap Json} :
    properties model fields written = .ok result ↔
      ∃ all, HasProperties (fun field => Yields (model field)) fields all ∧
        result = OrderedMap.putAll written all := by
  unfold HasProperties
  induction fields generalizing written with
  | nil => simp [properties, OrderedMap.putAll, eq_comm]
  | cons entry rest ih =>
    simp only [properties, bind_eq_ok_iff, Field.fragment_eq_ok_iff, ih,
      List.forall₂_cons_left_iff]
    constructor
    · rintro ⟨fragment, hfragment, all, hall, rfl⟩
      exact ⟨_, ⟨(entry.1, .object fragment), all, ⟨rfl, fragment, rfl, hfragment⟩, hall, rfl⟩,
        rfl⟩
    · rintro ⟨_, ⟨⟨_, _⟩, all, ⟨rfl, fragment, rfl, hfragment⟩, hall, rfl⟩, rfl⟩
      exact ⟨fragment, hfragment, all, hall, rfl⟩

/-- Some field is required exactly if there are names of required fields. -/
theorem Registry.requiredNames_ne_nil_iff :
    r.requiredNames ≠ [] ↔ r.fields.any (·.2.required) = true := by
  simp [Registry.requiredNames]

/-- The document of a model puts its properties together, whatever the names of its fields. -/
theorem Registry.document_eq_ok_iff_putAll :
    r.document model = .ok document ↔
      ∃ all, HasProperties (fun field => Yields (model field)) r.fields all ∧
        document = r.assemble (OrderedMap.putAll [] all) := by
  simp only [Registry.document, bind_eq_ok_iff, properties_eq_ok_iff, pure, Except.pure,
    Except.ok.injEq]
  have hassemble : ∀ all : OrderedMap Json,
      (("type", Json.string "object") :: ("properties", Json.object all) ::
        if (r.requiredNames.map Json.string).isEmpty then []
        else [("required", Json.array (r.requiredNames.map Json.string))]) = r.assemble all := by
    intro all
    unfold Registry.assemble
    by_cases hany : r.fields.any (·.2.required) = true
    · have hne := Registry.requiredNames_ne_nil_iff.mpr hany
      simp [hany, hne]
    · have heq : r.requiredNames = [] := by
        rwa [← Registry.requiredNames_ne_nil_iff, not_not] at hany
      simp [hany, heq]
  constructor
  · rintro ⟨_, ⟨all, hall, rfl⟩, rfl⟩
    exact ⟨all, hall, hassemble _⟩
  · rintro ⟨all, hall, rfl⟩
    exact ⟨_, ⟨all, hall, rfl⟩, hassemble _⟩

/-- Properties have the names of the fields. -/
theorem HasProperties.names_eq {models : String → ModelKey τ → Fragment → Prop}
    {fields : OrderedMap (Field τ)} {all : OrderedMap Json} (h : HasProperties models fields all) :
    OrderedMap.names all = OrderedMap.names fields := by
  unfold HasProperties at h
  induction h with
  | nil => rfl
  | cons hfirst _ ih =>
    rw [OrderedMap.names, List.map_cons, OrderedMap.names, List.map_cons, hfirst.1]
    exact congrArg _ ih

/-- A model whose fields have distinct names has its document computed, and no other. -/
theorem Registry.document_eq_ok_iff (hnodup : r.fieldNames.Nodup) :
    r.document model = .ok document ↔
      r.HasDocument (fun field => Yields (model field)) document := by
  rw [Registry.document_eq_ok_iff_putAll]
  refine exists_congr fun all => and_congr_right fun hall => ?_
  have hnames : (OrderedMap.names all).Nodup := by
    rw [hall.names_eq]
    exact hnodup
  rw [OrderedMap.putAll_of_nodup hnames (by simp), List.nil_append]

end Document

/-! ## More models, the same document -/

section Mono

variable {models models' : ModelKey τ → Fragment → Prop} {fragment : Fragment}

/-- A candidate keeps its fragment when its model keeps its document. -/
theorem Candidate.HasFragment.mono {candidate : Candidate τ}
    (hmodels : ∀ key document, candidate = .model key → models key document →
      models' key document) (h : candidate.HasFragment models fragment) :
    candidate.HasFragment models' fragment := by
  cases h with
  | primitive kind => exact .primitive kind
  | model hmodel => exact .model (hmodels _ _ rfl hmodel)

/-- A target keeps its fragment when the models among its candidates keep their documents. -/
theorem Target.HasFragment.mono {t : Target τ}
    (hmodels : ∀ key document, Candidate.model key ∈ t.toList → models key document →
      models' key document) (h : t.HasFragment models fragment) :
    t.HasFragment models' fragment := by
  have hcandidate : ∀ candidate ∈ t.toList, ∀ fragment,
      candidate.HasFragment models fragment → candidate.HasFragment models' fragment := by
    intro candidate hmem fragment hfragment
    refine hfragment.mono fun key document heq => hmodels key document ?_
    exact heq ▸ hmem
  cases h with
  | only honly hfirst => exact .only honly (hcandidate _ (by simp [honly]) _ hfirst)
  | choice hmany hall =>
    exact .choice hmany (forall₂_imp_of_mem hall fun a ha b _ => hcandidate a ha b)

/-- A shape keeps its fragment when the models among its candidates keep their documents. -/
theorem Shape.HasFragment.mono {s : Shape τ}
    (hmodels : ∀ target key document, s.target? = some target →
      Candidate.model key ∈ target.toList → models key document → models' key document)
    (h : s.HasFragment models fragment) : s.HasFragment models' fragment := by
  cases h with
  | scalar kind => exact .scalar kind
  | embedded ht => exact .embedded (ht.mono fun key document => hmodels _ key document rfl)
  | list ht => exact .list (ht.mono fun key document => hmodels _ key document rfl)

/-- Properties stay the same when the mentioned models keep their documents. -/
theorem HasProperties.mono {models models' : String → ModelKey τ → Fragment → Prop}
    {r : Registry τ} (hmodels : ∀ field key document, r.Mentions field key →
      models field key document → models' field key document)
    {all : OrderedMap Json} (h : HasProperties models r.fields all) :
    HasProperties models' r.fields all := by
  refine forall₂_imp_of_mem h ?_
  rintro ⟨name, f⟩ hmem property - ⟨hname, fragment, hproperty, base, hbase, hfragment⟩
  refine ⟨hname, fragment, hproperty, base, hbase.mono ?_, hfragment⟩
  intro target key document htarget hcandidate
  exact hmodels name key document ⟨f, target, hmem, htarget, hcandidate⟩

/-- A model keeps its document when the models that it mentions keep theirs. -/
theorem Registry.HasDocument.mono {models models' : String → ModelKey τ → Fragment → Prop}
    {r : Registry τ} (hmodels : ∀ field key document, r.Mentions field key →
      models field key document → models' field key document)
    {document : Fragment} (h : r.HasDocument models document) :
    r.HasDocument models' document := by
  obtain ⟨all, hall, hdocument⟩ := h
  exact ⟨all, hall.mono hmodels, hdocument⟩

/-- The computed document stays the same when more models have one. -/
theorem Registry.document_mono {model model' : String → ModelKey τ → Except SchemaError Fragment}
    {r : Registry τ} {document : Fragment}
    (hmodels : ∀ field key mentioned, model field key = .ok mentioned →
      model' field key = .ok mentioned) (h : r.document model = .ok document) :
    r.document model' = .ok document := by
  rw [Registry.document_eq_ok_iff_putAll] at h ⊢
  obtain ⟨all, hall, hdocument⟩ := h
  exact ⟨all, hall.mono fun field key mentioned _ => hmodels field key mentioned, hdocument⟩

end Mono

/-! ## Mentioned models -/

section Mentioned

variable {key : ModelKey τ}

/-- The models among the candidates of a target that has a fragment have documents. -/
theorem Target.HasFragment.exists_document {models : ModelKey τ → Fragment → Prop}
    {t : Target τ} {fragment : Fragment} (h : t.HasFragment models fragment)
    (hkey : Candidate.model key ∈ t.toList) : ∃ document, models key document := by
  have hall : ∃ fragments, List.Forall₂ (Candidate.HasFragment models) t.toList fragments := by
    cases h with
    | only honly hfirst => exact ⟨[fragment], honly ▸ .cons hfirst .nil⟩
    | choice _ hall => exact ⟨_, hall⟩
  obtain ⟨fragments, hall⟩ := hall
  obtain ⟨document, -, hdocument⟩ := exists_partner_of_mem_left hall hkey
  cases hdocument with
  | model hmodel => exact ⟨document, hmodel⟩

/-- The models among the candidates of a shape that has a fragment have documents. -/
theorem Shape.HasFragment.exists_document {models : ModelKey τ → Fragment → Prop}
    {s : Shape τ} {fragment : Fragment} (h : s.HasFragment models fragment) {target : Target τ}
    (htarget : s.target? = some target) (hkey : Candidate.model key ∈ target.toList) :
    ∃ document, models key document := by
  cases h with
  | scalar kind => cases htarget
  | embedded ht =>
    cases htarget
    exact ht.exists_document hkey
  | list ht =>
    cases htarget
    exact ht.exists_document hkey

/-- The models that a model mentions have documents if its fields have properties. -/
theorem HasProperties.exists_document {models : String → ModelKey τ → Fragment → Prop}
    {r : Registry τ} {all : OrderedMap Json} (h : HasProperties models r.fields all)
    {field : String} (hkey : r.Mentions field key) : ∃ document, models field key document := by
  obtain ⟨f, target, hmem, htarget, hcandidate⟩ := hkey
  obtain ⟨_, -, -, _, -, base, hbase, -⟩ := exists_partner_of_mem_left h hmem
  exact hbase.exists_document htarget hcandidate

/-- The models that a model mentions have documents if the model has one. -/
theorem Registry.HasDocument.exists_document {models : String → ModelKey τ → Fragment → Prop}
    {r : Registry τ} {document : Fragment} (h : r.HasDocument models document) {field : String}
    (hkey : r.Mentions field key) : ∃ mentioned, models field key mentioned := by
  obtain ⟨all, hall, -⟩ := h
  exact hall.exists_document hkey

/-- A document is computed for every mentioned model if one is computed for the model. -/
theorem Registry.exists_of_mentions {model : String → ModelKey τ → Except SchemaError Fragment}
    {r : Registry τ} {document : Fragment} (h : r.document model = .ok document) {field : String}
    (hkey : r.Mentions field key) : ∃ mentioned, model field key = .ok mentioned := by
  obtain ⟨all, hall, -⟩ := Registry.document_eq_ok_iff_putAll.mp h
  exact hall.exists_document hkey

end Mentioned

/-! ## References -/

/-- The key of a candidate that is a model. -/
def Candidate.key? : Candidate τ → Option (ModelKey τ)
  | primitive _ => none
  | model key => some key

/-- The models among the candidates of a target, in order. -/
def Target.keys (t : Target τ) : List (ModelKey τ) := t.toList.filterMap Candidate.key?

/-- The models among the candidates of a shape, in order. -/
def Shape.keys (s : Shape τ) : List (ModelKey τ) := (s.target?.map Target.keys).getD []

/-- The references of a model, each with the name of its field, in the order of the fields and of
the candidates in each. -/
def Registry.references (r : Registry τ) : List (String × ModelKey τ) :=
  r.fields.flatMap fun entry => entry.2.shape.keys.map (entry.1, ·)

theorem Candidate.key?_eq_some_iff {candidate : Candidate τ} {key : ModelKey τ} :
    candidate.key? = some key ↔ candidate = .model key := by
  cases candidate <;> simp [key?]

theorem Target.mem_keys_iff {t : Target τ} {key : ModelKey τ} :
    key ∈ t.keys ↔ Candidate.model key ∈ t.toList := by
  simp [keys, Candidate.key?_eq_some_iff]

theorem Shape.mem_keys_iff {s : Shape τ} {key : ModelKey τ} :
    key ∈ s.keys ↔ ∃ target, s.target? = some target ∧ Candidate.model key ∈ target.toList := by
  unfold keys
  cases s.target? <;> simp [Target.mem_keys_iff]

/-- The references of a model are to the models that it mentions. -/
theorem Registry.mem_references_iff {r : Registry τ} {field : String} {key : ModelKey τ} :
    (field, key) ∈ r.references ↔ r.Mentions field key := by
  simp only [references, List.mem_flatMap, List.mem_map, Shape.mem_keys_iff, Prod.mk.injEq]
  constructor
  · rintro ⟨⟨_, f⟩, hmem, _, ⟨target, htarget, hcandidate⟩, rfl, rfl⟩
    exact ⟨f, target, hmem, htarget, hcandidate⟩
  · rintro ⟨f, target, hmem, htarget, hcandidate⟩
    exact ⟨(field, f), hmem, key, ⟨target, htarget, hcandidate⟩, rfl, rfl⟩

/-! ## Errors -/

section Errors

variable {model : ModelKey τ → Except SchemaError Fragment} {error : SchemaError}

theorem Candidate.error?_fragment (candidate : Candidate τ) :
    error? (candidate.fragment model) = candidate.key?.bind fun key => error? (model key) := by
  cases candidate <;> rfl

/-- Of the candidates of a choice, the first one without a fragment decides. -/
theorem error?_branches (candidates : List (Candidate τ)) :
    error? (branches model candidates) =
      candidates.findSome? fun candidate => error? (candidate.fragment model) := by
  induction candidates with
  | nil => rfl
  | cons candidate rest ih =>
    rw [findSome?_cons_or, ← ih, branches]
    refine error?_bind fun fragment => ?_
    exact error?_bind_of_forall fun others => rfl

/-- The error of a target is that of the first model among its candidates that has one. -/
theorem Target.error?_fragment (t : Target τ) :
    error? (t.fragment model) = t.keys.findSome? fun key => error? (model key) := by
  rw [keys, findSome?_filterMap]
  simp only [← Candidate.error?_fragment, Target.fragment]
  split
  · rename_i candidate honly
    rw [honly, List.findSome?_singleton]
  · rw [error?_map, error?_branches]

/-- The error of a shape is that of the first model among its candidates that has one. -/
theorem Shape.error?_fragment (s : Shape τ) :
    error? (s.fragment model) = s.keys.findSome? fun key => error? (model key) := by
  cases s with
  | scalar kind => rfl
  | embedded t => exact t.error?_fragment
  | list t => exact (error?_map _ _).trans t.error?_fragment

/-- The error of properties is that of the first field that has one. -/
theorem error?_properties {model : String → ModelKey τ → Except SchemaError Fragment}
    (fields : OrderedMap (Field τ)) (written : OrderedMap Json) :
    error? (properties model fields written) =
      fields.findSome? fun entry => error? (entry.2.fragment (model entry.1)) := by
  induction fields generalizing written with
  | nil => rfl
  | cons entry rest ih =>
    rw [findSome?_cons_or, properties]
    exact error?_bind fun fragment => ih _

/-- The error of a document is that of the first reference that has one. -/
theorem Registry.error?_document (model : String → ModelKey τ → Except SchemaError Fragment)
    (r : Registry τ) :
    error? (r.document model) =
      r.references.findSome? fun reference => error? (model reference.1 reference.2) := by
  have hfields : error? (r.document model) = error? (properties model r.fields []) :=
    error?_bind_of_forall fun properties => rfl
  rw [hfields, error?_properties, references, findSome?_flatMap]
  simp only [Field.fragment, error?_map, Shape.error?_fragment, List.findSome?_map,
    Function.comp_def]

/-- An error of a target is that of a model among its candidates. -/
theorem Target.fragment_eq_error {t : Target τ} (h : t.fragment model = .error error) :
    ∃ key, Candidate.model key ∈ t.toList ∧ model key = .error error := by
  rw [← error?_eq_some_iff, error?_fragment] at h
  obtain ⟨key, hkey, herror⟩ := List.exists_of_findSome?_eq_some h
  exact ⟨key, mem_keys_iff.mp hkey, error?_eq_some_iff.mp herror⟩

/-- A document is refused only with the error of a mentioned model. -/
theorem Registry.exists_mentions_of_document_eq_error
    {model : String → ModelKey τ → Except SchemaError Fragment} {r : Registry τ}
    (h : r.document model = .error error) :
    ∃ field key, r.Mentions field key ∧ model field key = .error error := by
  rw [← error?_eq_some_iff, error?_document] at h
  obtain ⟨⟨field, key⟩, hreference, herror⟩ := List.exists_of_findSome?_eq_some h
  exact ⟨field, key, mem_references_iff.mp hreference, error?_eq_some_iff.mp herror⟩

/-- The document of a model depends on nothing but the models that it mentions. -/
theorem Registry.document_congr {model model' : String → ModelKey τ → Except SchemaError Fragment}
    {r : Registry τ} (h : ∀ field key, r.Mentions field key → model field key = model' field key) :
    r.document model = r.document model' := by
  cases hdocument : r.document model' with
  | ok document =>
    rw [document_eq_ok_iff_putAll] at hdocument ⊢
    obtain ⟨all, hall, hdocument⟩ := hdocument
    exact ⟨all, hall.mono fun field key _ hmentions => (h field key hmentions).trans, hdocument⟩
  | error error =>
    rw [← error?_eq_some_iff, error?_document, ← List.head?_filterMap] at hdocument ⊢
    rw [← hdocument]
    refine congrArg List.head? (List.filterMap_congr fun reference hreference => ?_)
    rw [h _ _ (mem_references_iff.mp hreference)]

end Errors

end ModelSchema
