import ModelSchema.Manifest.Catalog
import ModelSchema.Proofs.Lists
import ModelSchema.Proofs.Model.Registry
import ModelSchema.Proofs.Outcome

/-!
# Well-formed entries of a manifest

Whether a model resolves depends on its own entry alone: on the kinds, rules and targets of its
fields and on their names.  What it inherits adds fields, and never a reason to refuse it.

Main results:

- Theorem `Shape.ofKind_eq_ok_iff`: a shape has the kind and the target it was made from.
- Theorem `FieldEntry.exists_build_iff`: which entries become fields.
- Theorem `Manifest.resolve_eq_ok_iff`: the registry of a model, given that of its parent.
- Theorem `Manifest.exists_resolve_iff`: which models resolve.
-/

namespace ModelSchema

variable {τ : Type}

/-! ## Well-formedness -/

/-- A rule with parameters that make a validator: a finite bound, a pattern that can be read, a
range of lengths that is not empty. -/
def Rule.WellFormed : Rule → Prop
  | min bound _ => ∃ n, bound.finite = .ok n
  | max bound _ => ∃ n, bound.finite = .ok n
  | regex pattern ignoreCase => (Pattern.forCheck? (withoutDelimiters pattern) ignoreCase).isSome
  | length least most => ∀ m, most = some m → least ≤ m

/-- A field entry with a known kind, a target exactly if the kind needs one, a candidate in the
target, and well-formed rules. -/
structure FieldEntry.WellFormed (entry : FieldEntry) : Prop where
  kind : ∃ kind : FieldKind, kind.name = entry.kind ∧
    (entry.target.isSome ↔ kind = .embedded ∨ kind = .list)
  rules : ∀ rule ∈ entry.rules, rule.WellFormed
  target : entry.target ≠ some (.many [])

/-- A model entry with well-formed fields and no name given to two of them. -/
structure ModelEntry.WellFormed (entry : ModelEntry) : Prop where
  fields : ∀ field ∈ entry.fields, field.WellFormed
  nodup : (entry.fields.map (·.name)).Nodup

/-! ## Kinds and shapes -/

/-- A kind is read from its name and from no other text. -/
theorem FieldKind.ofName?_eq_some_iff {text : String} {kind : FieldKind} :
    ofName? text = some kind ↔ kind.name = text := by
  constructor
  · intro h
    simpa using List.find?_some h
  · rintro rfl
    exact ofName?_name kind

/-- A shape has the kind and the target that it was made from. -/
theorem Shape.ofKind_eq_ok_iff {field : String} {kind : FieldKind} {target : Option (Target τ)}
    {shape : Shape τ} :
    ofKind field kind target = .ok shape ↔ shape.kind = kind ∧ shape.target? = target := by
  constructor
  · intro h
    cases kind <;> cases target <;> cases h <;> exact ⟨rfl, rfl⟩
  · rintro ⟨rfl, rfl⟩
    cases shape <;> rfl

/-- There is a shape if the target is there exactly for embedded and list kinds. -/
theorem Shape.exists_ofKind_iff {field : String} {kind : FieldKind}
    {target : Option (Target τ)} :
    (∃ shape, ofKind field kind target = .ok shape) ↔
      (target.isSome ↔ kind = .embedded ∨ kind = .list) := by
  cases kind <;> cases target <;> simp [ofKind]

/-! ## Rules -/

/-- A text is read as a pattern if what stands between its delimiters is one. -/
theorem TextPattern.exists_read_iff {text : String} {ignoreCase : Bool} :
    (∃ p, read text ignoreCase = .ok p) ↔
      (Pattern.forCheck? (withoutDelimiters text) ignoreCase).isSome := by
  have hread : read text ignoreCase =
      (Pattern.forCheck? (withoutDelimiters text) ignoreCase).elim
        (.error (.invalidPattern text))
        fun pattern => .ok ⟨withoutDelimiters text, ignoreCase, pattern⟩ := by
    unfold read
    dsimp only
    cases Pattern.forCheck? (withoutDelimiters text) ignoreCase <;> rfl
  rw [hread]
  cases Pattern.forCheck? (withoutDelimiters text) ignoreCase with
  | none => simp
  | some pattern => simp

/-- Exactly the well-formed rules become validators. -/
theorem Rule.exists_build_iff {rule : Rule} :
    (∃ validator, rule.build = .ok validator) ↔ rule.WellFormed := by
  cases rule with
  | min bound exclusive => simp [build, WellFormed, Validator.bounded, map_eq_ok_iff]
  | max bound exclusive => simp [build, WellFormed, Validator.bounded, map_eq_ok_iff]
  | regex pattern ignoreCase =>
    simp [build, WellFormed, map_eq_ok_iff, ← TextPattern.exists_read_iff]
  | length least most =>
    cases most with
    | none => simp [build, WellFormed, Validator.lengthBetween]
    | some m =>
      by_cases h : m < least
      · simp [build, WellFormed, Validator.lengthBetween, h]
      · simp [build, WellFormed, Validator.lengthBetween, h, Nat.not_lt.mp h]

/-- Rules become validators one by one, in order. -/
theorem buildRules_eq_ok_iff {rules : List Rule} {validators : List Validator} :
    buildRules rules = .ok validators ↔
      List.Forall₂ (fun rule validator => rule.build = .ok validator) rules validators := by
  induction rules generalizing validators with
  | nil => simp [buildRules, eq_comm]
  | cons rule rest ih =>
    simp only [buildRules, bind_eq_ok_iff, ih, pure, Except.pure, Except.ok.injEq,
      List.forall₂_cons_left_iff]
    constructor
    · rintro ⟨validator, hrule, others, hrest, rfl⟩
      exact ⟨validator, others, hrule, hrest, rfl⟩
    · rintro ⟨validator, others, hrule, hrest, rfl⟩
      exact ⟨validator, hrule, others, hrest, rfl⟩

/-- Exactly lists of well-formed rules become lists of validators. -/
theorem exists_buildRules_iff {rules : List Rule} :
    (∃ validators, buildRules rules = .ok validators) ↔ ∀ rule ∈ rules, rule.WellFormed := by
  simp only [buildRules_eq_ok_iff, ← Rule.exists_build_iff]
  constructor
  · rintro ⟨validators, hbuilt⟩ rule hrule
    obtain ⟨validator, -, hbuild⟩ := exists_partner_of_mem_left hbuilt hrule
    exact ⟨validator, hbuild⟩
  · exact exists_forall₂

/-! ## Fields -/

/-- The field for an entry has the kind, the target, the rules and the mark of the entry. -/
theorem FieldEntry.build_eq_ok_iff {entry : FieldEntry} {f : Field τ} :
    entry.build = .ok f ↔
      f.shape.kind.name = entry.kind ∧ f.shape.target? = entry.target.map TargetEntry.build ∧
        f.required = entry.required ∧ buildRules entry.rules = .ok f.validators := by
  unfold build
  cases hkind : FieldKind.ofName? entry.kind with
  | none =>
    have hname : f.shape.kind.name ≠ entry.kind := by
      intro h
      rw [← FieldKind.ofName?_eq_some_iff, hkind] at h
      cases h
    simp [bind, Except.bind, hname]
  | some kind =>
    have hname : f.shape.kind.name = entry.kind ↔ f.shape.kind = kind := by
      rw [← FieldKind.ofName?_eq_some_iff, hkind, Option.some.injEq, eq_comm]
    simp only [bind_eq_ok_iff, Except.ok.injEq, exists_eq_left', Shape.ofKind_eq_ok_iff, pure,
      Except.pure, hname]
    constructor
    · rintro ⟨validators, hrules, shape, ⟨hkind, htarget⟩, rfl⟩
      exact ⟨hkind, htarget, rfl, hrules⟩
    · rintro ⟨hkind, htarget, hrequired, hrules⟩
      refine ⟨f.validators, hrules, f.shape, ⟨hkind, htarget⟩, ?_⟩
      rw [← hrequired]

/-- Which entries become fields; a target without candidates is found later. -/
theorem FieldEntry.exists_build_iff {entry : FieldEntry} :
    (∃ f : Field τ, entry.build = .ok f) ↔
      (∃ kind : FieldKind, kind.name = entry.kind ∧
        (entry.target.isSome ↔ kind = .embedded ∨ kind = .list)) ∧
        ∀ rule ∈ entry.rules, rule.WellFormed := by
  have hshape : ∀ kind : FieldKind, (entry.target.isSome ↔ kind = .embedded ∨ kind = .list) ↔
      ∃ shape : Shape τ, shape.kind = kind ∧
        shape.target? = entry.target.map TargetEntry.build := by
    intro kind
    simp only [← @Shape.ofKind_eq_ok_iff τ entry.name, Shape.exists_ofKind_iff,
      Option.isSome_map]
  simp only [build_eq_ok_iff, ← exists_buildRules_iff, hshape]
  constructor
  · rintro ⟨f, hkind, htarget, -, hrules⟩
    exact ⟨⟨_, hkind, f.shape, rfl, htarget⟩, _, hrules⟩
  · rintro ⟨⟨kind, hkind, shape, rfl, htarget⟩, validators, hrules⟩
    exact ⟨⟨shape, entry.required, validators⟩, hkind, htarget, rfl, hrules⟩

/-- A field lacks candidates exactly if its entry lists none. -/
theorem FieldEntry.lacksCandidates_of_build {entry : FieldEntry} {f : Field τ}
    (h : entry.build = .ok f) :
    f.shape.lacksCandidates = true ↔ entry.target = some (.many []) := by
  obtain ⟨-, htarget, -, -⟩ := build_eq_ok_iff.mp h
  rw [Shape.lacksCandidates, htarget]
  cases entry.target with
  | none => simp
  | some target =>
    cases target with
    | one name => simp [TargetEntry.build, Target.isEmpty, Target.toList]
    | many names => simp [TargetEntry.build, Target.isEmpty, Target.toList]

/-- A well-formed entry becomes a field that does not lack candidates, and no other does. -/
theorem FieldEntry.wellFormed_iff {entry : FieldEntry} :
    entry.WellFormed ↔
      ∃ f : Field τ, entry.build = .ok f ∧ f.shape.lacksCandidates = false := by
  constructor
  · intro h
    obtain ⟨f, hbuild⟩ := (exists_build_iff (τ := τ)).mpr ⟨h.kind, h.rules⟩
    refine ⟨f, hbuild, ?_⟩
    rw [← Bool.not_eq_true, lacksCandidates_of_build hbuild]
    exact h.target
  · rintro ⟨f, hbuild, hlacks⟩
    obtain ⟨hkind, hrules⟩ := exists_build_iff.mp ⟨f, hbuild⟩
    refine ⟨hkind, hrules, ?_⟩
    rw [Ne, ← lacksCandidates_of_build hbuild, hlacks]
    simp

/-- The models that the field of an entry mentions are mentioned by name. -/
theorem FieldEntry.named_of_build {entry : FieldEntry} {f : Field τ} (h : entry.build = .ok f)
    {target : Target τ} (htarget : f.shape.target? = some target) {key : ModelKey τ}
    (hkey : Candidate.model key ∈ target.toList) : ∃ name, key = .named name := by
  have hname : ∀ name : String, Candidate.model key = Candidate.ofName name →
      ∃ name, key = .named name := by
    intro name h
    unfold Candidate.ofName at h
    split at h <;> cases h
    exact ⟨name, rfl⟩
  obtain ⟨-, hbuilt, -, -⟩ := build_eq_ok_iff.mp h
  rw [htarget, eq_comm, Option.map_eq_some_iff] at hbuilt
  obtain ⟨written, -, rfl⟩ := hbuilt
  cases written with
  | one name =>
    simp only [TargetEntry.build, Target.toList, List.mem_singleton] at hkey
    exact hname name hkey
  | many names =>
    simp only [TargetEntry.build, Target.toList, List.mem_map] at hkey
    obtain ⟨name, -, heq⟩ := hkey
    exact hname name heq.symm

/-! ## Models -/

namespace Manifest

/-- Fields of entries, under the names of the entries and in their order. -/
def BuiltFields (entries : List FieldEntry) (fields : OrderedMap (Field τ)) : Prop :=
  List.Forall₂ (fun entry field => field.1 = entry.name ∧ entry.build = .ok field.2) entries
    fields

/-- The fields of entries have the names of the entries. -/
theorem BuiltFields.names_eq {entries : List FieldEntry} {fields : OrderedMap (Field τ)}
    (h : BuiltFields entries fields) : OrderedMap.names fields = entries.map (·.name) := by
  induction h with
  | nil => rfl
  | cons hfield _ ih => rw [List.map_cons, ← ih, ← hfield.1]; rfl

/-- Adding the fields of entries to a declaration appends them to the own fields. -/
theorem addFields_eq_ok_iff {entries : List FieldEntry} {d d' : Declaration τ} :
    addFields entries d = .ok d' ↔
      ∃ fields, BuiltFields entries fields ∧ d' = { d with own := d.own ++ fields } := by
  induction entries generalizing d with
  | nil => simp [addFields, BuiltFields, eq_comm]
  | cons entry rest ih =>
    simp only [addFields, bind_eq_ok_iff, ih, Declaration.field, BuiltFields,
      List.forall₂_cons_left_iff]
    constructor
    · rintro ⟨f, hbuild, fields, hfields, rfl⟩
      exact ⟨_, ⟨(entry.name, f), fields, ⟨rfl, hbuild⟩, hfields, rfl⟩, by simp⟩
    · rintro ⟨_, ⟨⟨name, f⟩, fields, ⟨rfl, hbuild⟩, hfields, rfl⟩, rfl⟩
      exact ⟨f, hbuild, fields, hfields, by simp⟩

/-- A model resolves like the declaration of its parent, if it has one, and of its fields. -/
theorem resolve_eq_ok_iff {entry : ModelEntry} {parent : Option (Registry τ)}
    {r : Registry τ} :
    resolve entry parent = .ok r ↔
      ∃ fields, BuiltFields entry.fields fields ∧
        Declaration.build ⟨parent.toList, fields, none⟩ entry.name (.named entry.name) =
          .ok r := by
  have hbuild : ∀ parents : List (Registry τ),
      (addFields entry.fields ⟨parents, [], none⟩ >>= fun d =>
          d.build entry.name (.named entry.name)) = .ok r ↔
        ∃ fields, BuiltFields entry.fields fields ∧
          Declaration.build ⟨parents, fields, none⟩ entry.name (.named entry.name) = .ok r := by
    intro parents
    simp only [bind_eq_ok_iff, addFields_eq_ok_iff, List.nil_append]
    constructor
    · rintro ⟨_, ⟨fields, hfields, rfl⟩, hbuild⟩
      exact ⟨fields, hfields, hbuild⟩
    · rintro ⟨fields, hfields, hbuild⟩
      exact ⟨_, ⟨fields, hfields, rfl⟩, hbuild⟩
  simp only [resolve, mapError_eq_ok_iff]
  cases parent with
  | none => exact hbuild []
  | some p => exact hbuild [p]

/-- Exactly the well-formed models resolve, whatever the parent is. -/
theorem exists_resolve_iff {entry : ModelEntry} {parent : Option (Registry τ)} :
    (∃ r, resolve entry parent = .ok r) ↔ entry.WellFormed := by
  simp only [resolve_eq_ok_iff, Declaration.build_eq_ok_iff]
  constructor
  · rintro ⟨_, fields, hfields, -, hnodup, hall, -⟩
    refine ⟨fun field hfield => ?_, hfields.names_eq ▸ hnodup⟩
    obtain ⟨built, hmem, -, hbuild⟩ := exists_partner_of_mem_left hfields hfield
    exact FieldEntry.wellFormed_iff.mpr ⟨built.2, hbuild, hall built hmem⟩
  · intro h
    have hbuild : ∀ field ∈ entry.fields, ∃ built : String × Field τ,
        built.1 = field.name ∧ field.build = .ok built.2 := by
      intro field hfield
      obtain ⟨f, hbuild, -⟩ := (FieldEntry.wellFormed_iff (τ := τ)).mp (h.fields field hfield)
      exact ⟨(field.name, f), rfl, hbuild⟩
    obtain ⟨fields, hfields⟩ := exists_forall₂ hbuild
    have hnames : fields.map Prod.fst = entry.fields.map (·.name) :=
      BuiltFields.names_eq hfields
    refine ⟨_, fields, hfields, trivial, ?_, ?_, rfl⟩
    · rw [hnames]
      exact h.nodup
    · intro built hbuilt
      obtain ⟨field, hfield, -, hbuild⟩ := exists_partner_of_mem_right hfields hbuilt
      rw [← Bool.not_eq_true, FieldEntry.lacksCandidates_of_build hbuild]
      exact (h.fields field hfield).target

end Manifest
end ModelSchema
