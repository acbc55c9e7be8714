import ModelSchema.Proofs.Manifest.Entry
import ModelSchema.Proofs.Model.Resolution

/-!
# Why an entry of a manifest is refused

A field entry is read in three steps, its kind, its rules and its target, and the first step that
fails says why the entry is refused.  The fields of a model are read in order, and only when all of
them are there their names and candidates are looked at.  What a model inherits makes no difference.

Main results:

- Theorem `FieldEntry.build_eq_error_iff`: why a field entry is refused.
- Theorem `Manifest.resolve_eq_error_iff`: why a model is refused, given its parent.
- Theorem `ModelEntry.exists_fault_iff`: exactly the entries that are not well-formed have a fault.
-/

namespace ModelSchema

variable {τ : Type}

/-! ## Rules -/

/-- What is wrong with a rule: a bound that is not finite, a pattern that cannot be read, or a
range without a length. -/
inductive Rule.Fault : Rule → ModelError → Prop where
  | min {bound : Double} {exclusive : Bool} (hbound : ∀ value, bound ≠ .finite value) :
      Fault (.min (.float bound) exclusive) (.invalidBound bound.text)
  | max {bound : Double} {exclusive : Bool} (hbound : ∀ value, bound ≠ .finite value) :
      Fault (.max (.float bound) exclusive) (.invalidBound bound.text)
  | regex {pattern : String} {ignoreCase : Bool}
      (hpattern : Pattern.forCheck? (withoutDelimiters pattern) ignoreCase = none) :
      Fault (.regex pattern ignoreCase) (.invalidPattern pattern)
  | length {least most : Nat} (hrange : most < least) :
      Fault (.length least (some most)) (.invalidLength least most)

/-- A bound is refused if it is not a finite number. -/
theorem WrittenBound.finite_eq_error_iff {bound : WrittenBound} {error : ModelError} :
    bound.finite = .error error ↔ ∃ x : Double, bound = .float x ∧ (∀ value, x ≠ .finite value) ∧
      error = .invalidBound x.text := by
  cases bound with
  | int n => simp [finite]
  | float x => cases x <;> simp [finite, eq_comm]

/-- A text is refused as a pattern if what stands between its delimiters is none. -/
theorem TextPattern.read_eq_error_iff {text : String} {ignoreCase : Bool} {error : ModelError} :
    read text ignoreCase = .error error ↔
      Pattern.forCheck? (withoutDelimiters text) ignoreCase = none ∧
        error = .invalidPattern text := by
  unfold read
  dsimp only
  cases Pattern.forCheck? (withoutDelimiters text) ignoreCase <;> simp [eq_comm]

/-- A rule is refused for what is wrong with it. -/
theorem Rule.build_eq_error_iff {rule : Rule} {error : ModelError} :
    rule.build = .error error ↔ rule.Fault error := by
  cases rule with
  | min bound exclusive =>
    rw [build, Validator.bounded, map_eq_error_iff, WrittenBound.finite_eq_error_iff]
    constructor
    · rintro ⟨x, rfl, hbound, rfl⟩
      exact .min hbound
    · intro h
      cases h with
      | min hbound => exact ⟨_, rfl, hbound, rfl⟩
  | max bound exclusive =>
    rw [build, Validator.bounded, map_eq_error_iff, WrittenBound.finite_eq_error_iff]
    constructor
    · rintro ⟨x, rfl, hbound, rfl⟩
      exact .max hbound
    · intro h
      cases h with
      | max hbound => exact ⟨_, rfl, hbound, rfl⟩
  | regex pattern ignoreCase =>
    rw [build, map_eq_error_iff, TextPattern.read_eq_error_iff]
    constructor
    · rintro ⟨hpattern, rfl⟩
      exact .regex hpattern
    · intro h
      cases h with
      | regex hpattern => exact ⟨hpattern, rfl⟩
  | length least most =>
    constructor
    · intro h
      cases most with
      | none => cases h
      | some m =>
        rw [build, Validator.lengthBetween] at h
        split at h
        · cases h
          exact .length ‹_›
        · cases h
    · intro h
      cases h with
      | length hrange => simp [build, Validator.lengthBetween, hrange]

/-- Of several rules, the first one that is refused decides. -/
theorem error?_buildRules (rules : List Rule) :
    error? (buildRules rules) = rules.findSome? fun rule => error? rule.build := by
  induction rules with
  | nil => rfl
  | cons rule rest ih =>
    rw [findSome?_cons_or, ← ih, buildRules]
    refine error?_bind fun validator => ?_
    exact error?_bind_of_forall fun validators => rfl

/-! ## Fields -/

/-- What is wrong with a field entry.  Its kind comes before its rules, these come in order, and
the target comes last. -/
inductive FieldEntry.Fault (entry : FieldEntry) : ModelError → Prop where
  | kind (hkind : ∀ kind : FieldKind, kind.name ≠ entry.kind) :
      Fault entry (.unknownKind entry.kind)
  | rule {kind : FieldKind} {before after : List Rule} {rule : Rule} {error : ModelError}
      (hkind : kind.name = entry.kind) (hrules : entry.rules = before ++ rule :: after)
      (hbefore : ∀ other ∈ before, other.WellFormed) (hfault : rule.Fault error) :
      Fault entry error
  | missing {kind : FieldKind} (hkind : kind.name = entry.kind)
      (hrules : ∀ rule ∈ entry.rules, rule.WellFormed) (hneeds : kind = .embedded ∨ kind = .list)
      (htarget : entry.target = none) : Fault entry (.missingTarget entry.name kind)
  | unexpected {kind : ScalarKind} (hkind : kind.name = entry.kind)
      (hrules : ∀ rule ∈ entry.rules, rule.WellFormed) (htarget : entry.target ≠ none) :
      Fault entry (.unexpectedTarget entry.name (.scalar kind))

/-- A shape is refused if a target is missing or is there without need. -/
theorem Shape.ofKind_eq_error_iff {field : String} {kind : FieldKind}
    {target : Option (Target τ)} {error : ModelError} :
    ofKind field kind target = .error error ↔
      (kind = .embedded ∨ kind = .list) ∧ target = none ∧ error = .missingTarget field kind ∨
        ∃ scalar, kind = .scalar scalar ∧ target ≠ none ∧
          error = .unexpectedTarget field (.scalar scalar) := by
  cases kind <;> cases target <;> simp [ofKind, eq_comm]

/-- Rules are refused with what is wrong with the first of them that is not well-formed. -/
theorem buildRules_eq_error_iff {rules : List Rule} {error : ModelError} :
    buildRules rules = .error error ↔ ∃ before rule after, rules = before ++ rule :: after ∧
      rule.Fault error ∧ ∀ other ∈ before, other.WellFormed := by
  simp only [← error?_eq_some_iff, error?_buildRules, List.findSome?_eq_some_iff,
    error?_eq_none_iff, Rule.exists_build_iff]
  simp only [error?_eq_some_iff, Rule.build_eq_error_iff]

/-- A field entry is refused for what is wrong with it. -/
theorem FieldEntry.build_eq_error_iff {entry : FieldEntry} {error : ModelError} :
    entry.build (τ := τ) = .error error ↔ entry.Fault error := by
  unfold build
  cases hkind : FieldKind.ofName? entry.kind with
  | none =>
    have hunknown : ∀ kind : FieldKind, kind.name ≠ entry.kind := by
      intro kind hname
      rw [← FieldKind.ofName?_eq_some_iff, hkind] at hname
      cases hname
    constructor
    · intro h
      cases h
      exact .kind hunknown
    · intro h
      cases h with
      | kind _ => rfl
      | rule hname _ _ _ => exact absurd hname (hunknown _)
      | missing hname _ _ _ => exact absurd hname (hunknown _)
      | unexpected hname _ _ => exact absurd hname (hunknown (.scalar _))
  | some kind =>
    have hname := FieldKind.ofName?_eq_some_iff.mp hkind
    have honly : ∀ other : FieldKind, other.name = entry.kind → other = kind := by
      intro other hother
      rw [← FieldKind.ofName?_eq_some_iff, hkind] at hother
      exact (Option.some.inj hother).symm
    simp only [bind_eq_error_iff, reduceCtorEq, false_or, Except.ok.injEq, exists_eq_left',
      buildRules_eq_error_iff, Shape.ofKind_eq_error_iff]
    constructor
    · rintro (⟨before, rule, after, hrules, hfault, hbefore⟩ | ⟨validators, hvalidators, h⟩)
      · exact .rule hname hrules hbefore hfault
      · have hrules := exists_buildRules_iff.mp ⟨validators, hvalidators⟩
        rcases h with (⟨hneeds, htarget, rfl⟩ | ⟨scalar, rfl, htarget, rfl⟩) | ⟨_, -, h⟩
        · exact .missing hname hrules hneeds (by simpa using htarget)
        · exact .unexpected hname hrules (by simpa using htarget)
        · cases h
    · intro h
      cases h with
      | kind hunknown => exact absurd hname (hunknown kind)
      | rule _ hrules hbefore hfault => exact .inl ⟨_, _, _, hrules, hfault, hbefore⟩
      | missing hother hrules hneeds htarget =>
        obtain rfl := honly _ hother
        obtain ⟨validators, hvalidators⟩ := exists_buildRules_iff.mpr hrules
        exact .inr ⟨validators, hvalidators, .inl (.inl ⟨hneeds, by simp [htarget], rfl⟩)⟩
      | unexpected hother hrules htarget =>
        obtain rfl := honly (.scalar _) hother
        obtain ⟨validators, hvalidators⟩ := exists_buildRules_iff.mpr hrules
        exact .inr ⟨validators, hvalidators, .inl (.inr ⟨_, rfl, by simpa using htarget, rfl⟩)⟩

/-- A field entry has nothing wrong with it exactly if it becomes a field. -/
theorem FieldEntry.exists_build_iff_forall_not_fault {entry : FieldEntry} :
    (∃ f : Field τ, entry.build = .ok f) ↔ ∀ error, ¬ entry.Fault error := by
  rw [← error?_eq_none_iff, Option.eq_none_iff_forall_ne_some]
  simp only [ne_eq, error?_eq_some_iff, build_eq_error_iff]

/-! ## Models -/

/-- What is wrong with the fields of a model together, at a place: the name of the field there was
given to one before, or else there is no candidate for it. -/
inductive ModelEntry.FaultAt (entry : ModelEntry) (i : Nat) : ModelError → Prop where
  | repeated {written : FieldEntry} (hfield : entry.fields[i]? = some written)
      (hname : written.name ∈ (entry.fields.take i).map (·.name)) :
      FaultAt entry i (.duplicateField entry.name written.name)
  | empty {written : FieldEntry} (hfield : entry.fields[i]? = some written)
      (hname : written.name ∉ (entry.fields.take i).map (·.name))
      (htarget : written.target = some (.many [])) :
      FaultAt entry i (.emptyCandidates written.name)

/-- What is wrong with a model entry: the first of its fields that is refused, or else the first
place where something is wrong with all of them together. -/
inductive ModelEntry.Fault (entry : ModelEntry) : ModelError → Prop where
  | field {before after : List FieldEntry} {written : FieldEntry} {error : ModelError}
      (hfields : entry.fields = before ++ written :: after)
      (hbefore : ∀ other ∈ before, ∀ e, ¬ other.Fault e) (hfault : written.Fault error) :
      Fault entry error
  | together {i : Nat} {error : ModelError}
      (hfields : ∀ written ∈ entry.fields, ∀ e, ¬ written.Fault e)
      (hfault : entry.FaultAt i error) (hfirst : ∀ j < i, ∀ other, ¬ entry.FaultAt j other) :
      Fault entry error

namespace Manifest

/-- Of several field entries, the first one that is refused decides. -/
theorem error?_addFields (entries : List FieldEntry) (d : Declaration τ) :
    error? (addFields entries d) =
      entries.findSome? fun entry => error? (entry.build (τ := τ)) := by
  induction entries generalizing d with
  | nil => rfl
  | cons entry rest ih =>
    rw [findSome?_cons_or, addFields]
    exact error?_bind fun f => ih _

/-- Together, the fields of entries have the faults of the entries. -/
theorem BuiltFields.faultAt_iff {entry : ModelEntry} {own : OrderedMap (Field τ)}
    (h : BuiltFields entry.fields own) {i : Nat} {error : ModelError} :
    Declaration.FaultAt entry.name [] own i error ↔ entry.FaultAt i error := by
  have hnames : (own.take i).map Prod.fst = (entry.fields.take i).map (·.name) :=
    BuiltFields.names_eq (List.forall₂_take i h)
  have hplace := optionRel_iff.mp (optionRel_getElem? h i)
  constructor
  · rintro (⟨hfield, hseen⟩ | ⟨hfield, hnew, htarget, hnone⟩)
    · rcases hplace with ⟨-, hnone⟩ | ⟨written, _, hwritten, hown, hname, -⟩
      · simp [hfield] at hnone
      · obtain rfl := Option.some.inj (hown.symm.trans hfield)
        obtain rfl : _ = written.name := hname
        rw [List.nil_append, hnames] at hseen
        exact .repeated hwritten hseen
    · rcases hplace with ⟨-, hnone⟩ | ⟨written, _, hwritten, hown, hname, hbuild⟩
      · simp [hfield] at hnone
      · obtain rfl := Option.some.inj (hown.symm.trans hfield)
        obtain rfl : _ = written.name := hname
        rw [List.nil_append, hnames] at hnew
        refine .empty hwritten hnew ?_
        rw [← FieldEntry.lacksCandidates_of_build hbuild, Declaration.lacksCandidates_iff]
        exact ⟨_, htarget, hnone⟩
  · rintro (⟨hfield, hname⟩ | ⟨hfield, hname, htarget⟩)
    · rcases hplace with ⟨hnone, -⟩ | ⟨written, ⟨_, f⟩, hwritten, hown, rfl, -⟩
      · simp [hfield] at hnone
      · obtain rfl := Option.some.inj (hwritten.symm.trans hfield)
        exact .duplicate hown (by rwa [List.nil_append, hnames])
    · rcases hplace with ⟨hnone, -⟩ | ⟨written, ⟨_, f⟩, hwritten, hown, rfl, hbuild⟩
      · simp [hfield] at hnone
      · obtain rfl := Option.some.inj (hwritten.symm.trans hfield)
        rw [← FieldEntry.lacksCandidates_of_build hbuild, Declaration.lacksCandidates_iff]
          at htarget
        obtain ⟨target, htarget, hnone⟩ := htarget
        exact .empty hown (by rwa [List.nil_append, hnames]) htarget hnone

/-- Adding fields fails with what is wrong with the first entry that is refused. -/
theorem addFields_eq_error_iff {entries : List FieldEntry} {d : Declaration τ}
    {error : ModelError} :
    addFields entries d = .error error ↔ ∃ before written after,
      entries = before ++ written :: after ∧ written.Fault error ∧
        ∀ other ∈ before, ∀ e, ¬ other.Fault e := by
  simp only [← error?_eq_some_iff, error?_addFields, List.findSome?_eq_some_iff,
    error?_eq_none_iff, FieldEntry.exists_build_iff_forall_not_fault]
  simp only [error?_eq_some_iff, FieldEntry.build_eq_error_iff]

/-- Fields are there for all entries exactly if nothing is wrong with any of them. -/
theorem exists_builtFields_iff {entries : List FieldEntry} :
    (∃ own : OrderedMap (Field τ), BuiltFields entries own) ↔
      ∀ written ∈ entries, ∀ error, ¬ written.Fault error := by
  simp only [← FieldEntry.exists_build_iff_forall_not_fault (τ := τ)]
  constructor
  · rintro ⟨own, hown⟩ written hwritten
    obtain ⟨field, -, -, hbuild⟩ := exists_partner_of_mem_left hown hwritten
    exact ⟨field.2, hbuild⟩
  · intro h
    refine exists_forall₂ fun written hwritten => ?_
    obtain ⟨f, hbuild⟩ := h written hwritten
    exact ⟨(written.name, f), rfl, hbuild⟩

/-- A model is refused for what is wrong with its entry, whatever its parent is. -/
theorem resolve_eq_error_iff {entry : ModelEntry} {parent : Option (Registry τ)}
    {error : CatalogError} :
    resolve entry parent = .error error ↔
      ∃ source, entry.Fault source ∧ error = .model entry.name source := by
  have hbuild : ∀ (parents : List (Registry τ)) (source : ModelError),
      (addFields entry.fields ⟨parents, [], none⟩ >>= fun d =>
          d.build entry.name (.named entry.name)) = .error source ↔ entry.Fault source := by
    intro parents source
    rw [bind_eq_error_iff, addFields_eq_error_iff]
    simp only [addFields_eq_ok_iff, List.nil_append]
    constructor
    · rintro (⟨before, written, after, hfields, hfault, hbefore⟩ |
        ⟨_, ⟨own, hown, rfl⟩, hfirst⟩)
      · exact .field hfields hbefore hfault
      · obtain ⟨i, hfault, hfirst⟩ := (Declaration.build_eq_error_iff.mp hfirst).resolve_left nofun
          |>.2
        simp only [hown.faultAt_iff] at hfault hfirst
        exact .together (exists_builtFields_iff.mp ⟨own, hown⟩) hfault hfirst
    · rintro (⟨hfields, hbefore, hfault⟩ | ⟨hfields, hfault, hfirst⟩)
      · exact .inl ⟨_, _, _, hfields, hfault, hbefore⟩
      · obtain ⟨own, hown⟩ := (exists_builtFields_iff (τ := τ)).mpr hfields
        refine .inr ⟨_, ⟨own, hown, rfl⟩, ?_⟩
        simp only [← hown.faultAt_iff] at hfault hfirst
        exact Declaration.build_eq_error_iff.mpr (.inr ⟨rfl, _, hfault, hfirst⟩)
  simp only [resolve, mapError_eq_error_iff, eq_comm (a := CatalogError.model _ _)]
  cases parent with
  | none => exact exists_congr fun source => and_congr_left' (hbuild [] source)
  | some p => exact exists_congr fun source => and_congr_left' (hbuild [p] source)

end Manifest

/-- What is wrong with an entry is what a model without a parent would be refused for. -/
theorem ModelEntry.fault_iff {entry : ModelEntry} {error : ModelError} :
    entry.Fault error ↔
      Manifest.resolve (τ := Empty) entry none = .error (.model entry.name error) := by
  rw [Manifest.resolve_eq_error_iff]
  constructor
  · exact fun hfault => ⟨error, hfault, rfl⟩
  · rintro ⟨source, hfault, heq⟩
    rwa [(CatalogError.model.inj heq).2]

/-- Something is wrong with an entry exactly if it is not well-formed. -/
theorem ModelEntry.exists_fault_iff {entry : ModelEntry} :
    (∃ error, entry.Fault error) ↔ ¬ entry.WellFormed := by
  constructor
  · rintro ⟨error, hfault⟩ hwell
    obtain ⟨r, hr⟩ := Manifest.exists_resolve_iff.mpr hwell
    cases hr.symm.trans (fault_iff.mp hfault)
  · intro hwell
    cases hresolve : Manifest.resolve (τ := Empty) entry none with
    | ok r => exact absurd (Manifest.exists_resolve_iff.mp ⟨r, hresolve⟩) hwell
    | error error =>
      obtain ⟨source, hfault, -⟩ := Manifest.resolve_eq_error_iff.mp hresolve
      exact ⟨source, hfault⟩

/-- At most one thing is said to be wrong with an entry. -/
theorem ModelEntry.Fault.unique {entry : ModelEntry} {error error' : ModelError}
    (h : entry.Fault error) (h' : entry.Fault error') : error = error' := by
  have heq := Except.error.inj ((fault_iff.mp h).symm.trans (fault_iff.mp h'))
  exact (CatalogError.model.inj heq).2

end ModelSchema
