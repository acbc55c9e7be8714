import ModelSchema.Proofs.Manifest.Flattening
import ModelSchema.Proofs.Model.Correspondence
import ModelSchema.Proofs.Model.Family
import ModelSchema.Proofs.Walk

/-!
# Families written as manifests

A manifest declares a family if it has an entry for each type: with the same parent, the same own
fields and rules for the same validators, where a name stands for each type.  The entry of a type
resolves to a registry that corresponds to that of the type, and inheriting from a type ends where
extending its model does.

Main results:

- Theorem `FieldEntry.Declares.corresponds`: the field of an entry corresponds to what it declares.
- Theorem `Family.carryOut_plain`: what plain actions declare.
- Theorem `Manifest.Resolves.exists_build`: types are built if their entries resolve.
- Theorem `Catalog.exists_build_of_ofManifest`: a catalog has the registries of a family.
-/

namespace ModelSchema

variable {τ τ' : Type}

/-! ## Declaring the same -/

/-- A type stands for the name of its model. -/
inductive ModelKey.NamedBy (nameOf : τ → String) : ModelKey τ → ModelKey τ' → Prop where
  | intro (t : τ) : NamedBy nameOf (.typed t) (.named (nameOf t))

/-- A kind is written as its own name, and a type as the name of its model. -/
inductive Candidate.WrittenAs (nameOf : τ → String) : Candidate τ → String → Prop where
  | primitive (kind : ScalarKind) : WrittenAs nameOf (.primitive kind) kind.name
  | model (t : τ) : WrittenAs nameOf (.model (.typed t)) (nameOf t)

/-- The names of an entry, in order. -/
def TargetEntry.names : TargetEntry → List String
  | one name => [name]
  | many names => names

/-- A target is written as the names of its candidates, in order. -/
def Target.WrittenAs (nameOf : τ → String) (t : Target τ) (entry : TargetEntry) : Prop :=
  List.Forall₂ (Candidate.WrittenAs nameOf) t.toList entry.names

/-- An entry has the name, the kind and the mark of a field, its target if it has one, and rules for
its validators. -/
structure FieldEntry.Declares (nameOf : τ → String) (entry : FieldEntry) (name : String)
    (f : Field τ) : Prop where
  name : entry.name = name
  kind : entry.kind = f.shape.kind.name
  required : entry.required = f.required
  target : Option.Rel (Target.WrittenAs nameOf) f.shape.target? entry.target
  rules : List.Forall₂ (fun rule validator => rule.build = .ok validator) entry.rules f.validators

namespace Action

/-- The type that an action inherits from. -/
def parent? : Action τ → Option τ
  | inherit parent => some parent
  | _ => none

/-- The field that an action declares. -/
def field? : Action τ → Option (String × Field τ)
  | field name f => some (name, f)
  | _ => none

theorem mem_parents_iff {actions : List (Action τ)} {parent : τ} :
    parent ∈ actions.filterMap parent? ↔ inherit parent ∈ actions := by
  rw [List.mem_filterMap]
  constructor
  · rintro ⟨action, hmem, hparent⟩
    cases action with
    | inherit other =>
      obtain rfl : other = parent := Option.some.inj hparent
      exact hmem
    | _ => cases hparent
  · exact fun hmem => ⟨_, hmem, rfl⟩

/-- An action that inherits or declares a field. -/
def Plain : Action τ → Prop
  | inherit _ => True
  | field _ _ => True
  | fail _ => False
  | abort _ => False

end Action

/-- An entry declares a model as plain actions do: it has the name of the parent, if there is one,
and there is no more than one, and an entry for each own field, in order. -/
structure ModelEntry.Declares (nameOf : τ → String) (entry : ModelEntry) (name : String)
    (actions : List (Action τ)) : Prop where
  name : entry.name = name
  plain : ∀ action ∈ actions, action.Plain
  parent : (actions.filterMap Action.parent?).map nameOf = entry.parent.toList
  fields : List.Forall₂ (fun written own => written.Declares nameOf own.1 own.2) entry.fields
    (actions.filterMap Action.field?)

/-- A manifest has an entry for each type of a family. -/
def Manifest.Declares (m : Manifest) (family : Family τ) : Prop :=
  ∀ t, ∃ entry ∈ m.models, entry.Declares family.name (family.name t) (family.declare t)

/-! ## Fields -/

section Fields

variable {nameOf : τ → String}

/-- The candidates of an entry are those with its names. -/
theorem TargetEntry.toList_build (entry : TargetEntry) :
    (entry.build : Target τ).toList = entry.names.map .ofName := by
  cases entry <;> rfl

/-- The candidate with the name of a candidate corresponds to it. -/
theorem Candidate.WrittenAs.corresponds (hnames : ∀ t, ScalarKind.ofName? (nameOf t) = none)
    {candidate : Candidate τ} {name : String} (h : candidate.WrittenAs nameOf name) :
    candidate.Corresponds (ModelKey.NamedBy nameOf) (Candidate.ofName name : Candidate τ') := by
  cases h with
  | primitive kind =>
    rw [Candidate.ofName, ScalarKind.ofName?_name]
    exact .primitive kind
  | model t =>
    rw [Candidate.ofName, hnames t]
    exact .model (.intro t)

/-- The target of an entry corresponds to the target that is written so. -/
theorem Target.WrittenAs.corresponds (hnames : ∀ t, ScalarKind.ofName? (nameOf t) = none)
    {t : Target τ} {entry : TargetEntry} (h : t.WrittenAs nameOf entry) :
    t.Corresponds (ModelKey.NamedBy nameOf) (entry.build : Target τ') := by
  rw [Target.Corresponds, TargetEntry.toList_build, List.forall₂_map_right_iff]
  exact h.imp fun candidate name => Candidate.WrittenAs.corresponds hnames

/-- The field of an entry corresponds to the field that the entry declares. -/
theorem FieldEntry.Declares.corresponds (hnames : ∀ t, ScalarKind.ofName? (nameOf t) = none)
    {entry : FieldEntry} {name : String} {f : Field τ} (h : entry.Declares nameOf name f)
    {f' : Field τ'} (hbuild : entry.build = .ok f') :
    f.Corresponds (ModelKey.NamedBy nameOf) f' := by
  obtain ⟨hkind, htarget, hrequired, hrules⟩ := build_eq_ok_iff.mp hbuild
  constructor
  · have hsame : FieldKind.ofName? entry.kind = some f'.shape.kind :=
      FieldKind.ofName?_eq_some_iff.mpr hkind
    rw [h.kind, FieldKind.ofName?_name, Option.some.injEq] at hsame
    exact hsame
  · rw [htarget]
    rcases optionRel_iff.mp h.target with ⟨hnone, hnone'⟩ | ⟨t, written, ht, hwritten, hnamed⟩
    · rw [hnone, hnone']
      exact .none
    · rw [ht, hwritten]
      exact .some (hnamed.corresponds hnames)
  · rw [hrequired, h.required]
  · rw [buildRules_eq_ok_iff.mpr h.rules, Except.ok.injEq] at hrules
    exact hrules

end Fields

/-! ## Types -/

namespace Family

variable {load : τ → Except LoadError (Registry τ)} {actions : List (Action τ)}

/-- Plain actions declare the registries of the parents and the own fields, in order. -/
theorem carryOut_plain (hplain : ∀ action ∈ actions, action.Plain) {parents : List (Registry τ)}
    (hload : List.Forall₂ (fun parent r => load parent = .ok r)
      (actions.filterMap Action.parent?) parents) (d : Declaration τ) :
    carryOut load actions d =
      .ok ⟨d.parents ++ parents, d.own ++ actions.filterMap Action.field?, d.error⟩ := by
  induction actions generalizing parents d with
  | nil =>
    cases hload
    simp [carryOut]
  | cons action rest ih =>
    obtain ⟨hfirst, hrest⟩ := List.forall_mem_cons.mp hplain
    cases action with
    | inherit parent =>
      have hcons : (Action.inherit parent :: rest).filterMap Action.parent? =
          parent :: rest.filterMap Action.parent? := rfl
      rw [hcons, List.forall₂_cons_left_iff] at hload
      obtain ⟨r, others, hr, hothers, rfl⟩ := hload
      simp only [carryOut, hr, ih hrest hothers, Declaration.inherit, List.append_assoc]
      rfl
    | field name f =>
      rw [List.filterMap_cons_none rfl] at hload
      simp only [carryOut, ih hrest hload, Declaration.field, List.append_assoc]
      rfl
    | fail error => exact hfirst.elim
    | abort message => exact hfirst.elim

end Family

namespace Manifest

variable {m : Manifest} {family : Family τ}

/-- What a type inherits from is what its model extends. -/
theorem Declares.extends_of_inherits (h : m.Declares family) {child parent : τ}
    (hinherits : family.Inherits child parent) :
    m.Extends (family.name child) (family.name parent) := by
  obtain ⟨entry, hmem, hentry⟩ := h child
  refine ⟨entry, hmem, hentry.name, ?_⟩
  rw [← Option.mem_toList, ← hentry.parent]
  exact List.mem_map_of_mem (Action.mem_parents_iff.mpr hinherits)

variable [DecidableEq τ]

/-- A type is built if its parents are and its entry resolves over corresponding ones. -/
theorem exists_build_of_resolve (hnames : ∀ t, ScalarKind.ofName? (family.name t) = none)
    {entry : ModelEntry} {t : τ}
    (hentry : entry.Declares family.name (family.name t) (family.declare t))
    {parents : List (Registry τ)} {parent' : Option (Registry τ')} {r' : Registry τ'}
    (hresolve : resolve entry parent' = .ok r')
    (hload : List.Forall₂ (fun parent r => family.buildOn [t] parent = .ok r)
      ((family.declare t).filterMap Action.parent?) parents)
    (hparents : List.Forall₂ (Registry.Corresponds (ModelKey.NamedBy family.name)) parents
      parent'.toList) :
    ∃ r, family.build t = .ok r ∧ r.Corresponds (ModelKey.NamedBy family.name) r' := by
  obtain ⟨fields', hfields', hbuild'⟩ := resolve_eq_ok_iff.mp hresolve
  have hown : OrderedMap.InStep (Field.Corresponds (ModelKey.NamedBy family.name))
      ((family.declare t).filterMap Action.field?) fields' := by
    refine forall₂_trans_of_mem hentry.fields.flip hfields' ?_
    rintro own - written field hdeclares ⟨hname, hbuild⟩
    exact ⟨hdeclares.name.symm.trans hname.symm, hdeclares.corresponds hnames hbuild⟩
  have hcarry := Family.carryOut_plain hentry.plain hload .empty
  rw [hentry.name] at hbuild'
  obtain ⟨r, hr, hcorresponds⟩ := Declaration.exists_build_of_corresponds
    (d := ⟨parents, (family.declare t).filterMap Action.field?, none⟩) hbuild'
    (ModelKey.NamedBy.intro t) hparents hown rfl
  exact ⟨r, Family.buildOn_eq_ok_iff.mpr ⟨List.not_mem_nil, _, hcarry, hr⟩, hcorresponds⟩

/-- A type is built if the entry that declares it resolves, and to a corresponding registry. -/
theorem Resolves.exists_build (hm : m.Declares family) (hnodup : m.names.Nodup)
    (hnames : ∀ t, ScalarKind.ofName? (family.name t) = none) {entry : ModelEntry}
    {r' : Registry τ'} (h : m.Resolves entry r') (hmem : entry ∈ m.models) (t : τ)
    (hentry : entry.Declares family.name (family.name t) (family.declare t)) :
    ∃ r, family.build t = .ok r ∧ r.Corresponds (ModelKey.NamedBy family.name) r' := by
  have hacc := h.acc hnodup hmem
  induction h generalizing t with
  | root hparent hresolve =>
    have hroot := hentry.parent
    rw [hparent, Option.toList_none, List.map_eq_nil_iff] at hroot
    have hload : List.Forall₂ (fun parent r => family.buildOn [t] parent = .ok r)
        ((family.declare t).filterMap Action.parent?) [] := by
      rw [hroot]
      exact .nil
    exact exists_build_of_resolve hnames hentry hresolve hload .nil
  | @child entry next parent p' r' hparent hnext hp' hresolve ih =>
    have hchild := hentry.parent
    rw [hparent, Option.toList_some, List.map_eq_singleton_iff] at hchild
    obtain ⟨parent, hparents, rfl⟩ := hchild
    -- The entry that declares the parent is the one that is found under its name.
    obtain ⟨written, hwritten, hdeclares⟩ := hm parent
    obtain ⟨hnextmem, hnextname⟩ := of_findNamed hnext
    obtain rfl : written = next :=
      List.inj_on_of_nodup_map hnodup hwritten hnextmem (hdeclares.name.trans hnextname.symm)
    have hinherits : family.Inherits t parent :=
      Action.mem_parents_iff.mp (hparents ▸ List.mem_singleton_self parent)
    have hstep : m.Extends entry.name written.name := by
      rw [hentry.name, hdeclares.name]
      exact hm.extends_of_inherits hinherits
    obtain ⟨p, hp, hcorresponds⟩ := ih hnextmem parent hdeclares (hacc.inv hstep)
    -- The type is under way while its parent is built, but the parent does not lead back to it.
    have hbelow : family.buildOn [t] parent = .ok p := by
      refine Family.buildOn_of_forall_not_reaches hp fun s hs hreach => ?_
      obtain rfl : s = t := List.mem_singleton.mp hs
      have hcycle : Relation.TransGen family.Inherits s s := .head' hinherits hreach
      rw [hentry.name] at hacc
      exact not_transGen_self_of_acc hacc
        (hcycle.lift family.name fun _ _ => hm.extends_of_inherits)
    have hload : List.Forall₂ (fun parent r => family.buildOn [t] parent = .ok r)
        ((family.declare t).filterMap Action.parent?) [p] := by
      rw [hparents]
      exact .cons hbelow .nil
    exact exists_build_of_resolve hnames hentry hresolve hload (.cons hcorresponds .nil)

end Manifest

namespace Catalog

variable [DecidableEq τ] {m : Manifest} {family : Family τ} {c : Catalog τ'}

/-- The catalog of a manifest that declares a family has, under the name of each type, a registry
that corresponds to the one that is built for the type. -/
theorem exists_build_of_ofManifest (hm : m.Declares family)
    (hnames : ∀ t, ScalarKind.ofName? (family.name t) = none) (hc : ofManifest m = .ok c) (t : τ) :
    ∃ r r', family.build t = .ok r ∧ c.get? (family.name t) = some r' ∧
      r.Corresponds (ModelKey.NamedBy family.name) r' := by
  obtain ⟨hnodup, hall⟩ := resolves_of_ofManifest hc
  obtain ⟨entry, hmem, hentry⟩ := hm t
  obtain ⟨r', -, hresolves⟩ := exists_partner_of_mem_left hall hmem
  obtain ⟨r, hbuild, hr⟩ := hresolves.exists_build hm hnodup hnames hmem t hentry
  refine ⟨r, r', hbuild, (get?_eq_some_iff hc).mpr ⟨entry, ?_, hresolves⟩, hr⟩
  rw [← hentry.name]
  exact findNamed_of_mem hnodup hmem

end Catalog
end ModelSchema
