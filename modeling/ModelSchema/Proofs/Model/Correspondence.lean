import ModelSchema.Proofs.Lists
import ModelSchema.Proofs.Model.Registry

/-!
# Models under different keys

A model can be known by different keys in different places.  Given which keys stand for each other,
two registries correspond if they agree in everything else, field by field: names, kinds,
candidates, marks and validators.  Declarations that correspond resolve to registries that
correspond, since nothing in resolving them looks at keys.

Main results:

- Theorem `Declaration.inStep_inherited`: corresponding parents have corresponding fields.
- Theorem `Declaration.exists_build_of_corresponds`: corresponding declarations resolve alike.
-/

namespace ModelSchema

variable {τ τ' : Type} {K : ModelKey τ → ModelKey τ' → Prop}

/-! ## Corresponding models -/

/-- Two candidates are the same kind, or models whose keys stand for each other. -/
inductive Candidate.Corresponds (K : ModelKey τ → ModelKey τ' → Prop) :
    Candidate τ → Candidate τ' → Prop where
  | primitive (kind : ScalarKind) : Corresponds K (.primitive kind) (.primitive kind)
  | model {key : ModelKey τ} {key' : ModelKey τ'} (hkey : K key key') :
      Corresponds K (.model key) (.model key')

/-- Two targets have corresponding candidates, in the same order. -/
def Target.Corresponds (K : ModelKey τ → ModelKey τ' → Prop) (t : Target τ) (t' : Target τ') :
    Prop :=
  List.Forall₂ (Candidate.Corresponds K) t.toList t'.toList

/-- Two fields have the same kind, corresponding targets, the same mark and the same validators. -/
structure Field.Corresponds (K : ModelKey τ → ModelKey τ' → Prop) (f : Field τ) (f' : Field τ') :
    Prop where
  kind : f.shape.kind = f'.shape.kind
  target : Option.Rel (Target.Corresponds K) f.shape.target? f'.shape.target?
  required : f.required = f'.required
  validators : f.validators = f'.validators

/-- Two registries have the same name, keys that stand for each other, and corresponding fields
under the same names in the same order. -/
structure Registry.Corresponds (K : ModelKey τ → ModelKey τ' → Prop) (r : Registry τ)
    (r' : Registry τ') : Prop where
  name : r.name = r'.name
  key : K r.key r'.key
  fields : OrderedMap.InStep (Field.Corresponds K) r.fields r'.fields

/-- Corresponding fields lack candidates together. -/
theorem Field.Corresponds.lacksCandidates_eq {f : Field τ} {f' : Field τ'}
    (h : f.Corresponds K f') : f.shape.lacksCandidates = f'.shape.lacksCandidates := by
  rw [Shape.lacksCandidates, Shape.lacksCandidates]
  rcases optionRel_iff.mp h.target with ⟨hnone, hnone'⟩ | ⟨t, t', ht, ht', hcandidates⟩
  · rw [hnone, hnone']
    rfl
  · have hlength : t.toList.length = t'.toList.length := List.Forall₂.length_eq hcandidates
    rw [ht, ht', Option.any_some, Option.any_some, Target.isEmpty, Target.isEmpty, Bool.eq_iff_iff,
      List.isEmpty_iff_length_eq_zero, List.isEmpty_iff_length_eq_zero, hlength]

/-! ## Corresponding declarations -/

namespace Declaration

variable {d : Declaration τ} {d' : Declaration τ'}

/-- Parents that correspond one by one hand down corresponding fields. -/
theorem inStep_inherited (h : List.Forall₂ (Registry.Corresponds K) d.parents d'.parents) :
    OrderedMap.InStep (Field.Corresponds K) d.inherited d'.inherited := by
  have hmerge : ∀ {parents : List (Registry τ)} {parents' : List (Registry τ')},
      List.Forall₂ (Registry.Corresponds K) parents parents' →
      ∀ {start : OrderedMap (Field τ)} {start' : OrderedMap (Field τ')},
        OrderedMap.InStep (Field.Corresponds K) start start' →
          OrderedMap.InStep (Field.Corresponds K)
            (parents.foldl (fun acc parent => OrderedMap.putAll acc parent.fields) start)
            (parents'.foldl (fun acc parent => OrderedMap.putAll acc parent.fields) start') := by
    intro parents parents' hparents
    induction hparents with
    | nil => exact id
    | cons hparent _ ih => exact fun hstart => ih (hstart.putAll hparent.fields)
  exact hmerge h .nil

/-- A declaration resolves if one does that corresponds to it, and to a corresponding registry. -/
theorem exists_build_of_corresponds {name : String} {key : ModelKey τ} {key' : ModelKey τ'}
    {r' : Registry τ'} (h : d'.build name key' = .ok r') (hkey : K key key')
    (hparents : List.Forall₂ (Registry.Corresponds K) d.parents d'.parents)
    (hown : OrderedMap.InStep (Field.Corresponds K) d.own d'.own) (herror : d.error = d'.error) :
    ∃ r, d.build name key = .ok r ∧ r.Corresponds K r' := by
  obtain ⟨hnone, hnodup, hall, rfl⟩ := build_eq_ok_iff.mp h
  have hnames : d.own.map Prod.fst = d'.own.map Prod.fst := hown.names_eq
  have hcandidates : ∀ entry ∈ d.own, entry.2.shape.lacksCandidates = false := by
    intro entry hentry
    obtain ⟨entry', hentry', -, hfield⟩ := exists_partner_of_mem_left hown hentry
    rw [hfield.lacksCandidates_eq]
    exact hall entry' hentry'
  refine ⟨_, build_eq_ok_iff.mpr ⟨herror.trans hnone, hnames ▸ hnodup, hcandidates, rfl⟩, ?_⟩
  exact ⟨rfl, hkey, (inStep_inherited hparents).putAll hown⟩

end Declaration
end ModelSchema
