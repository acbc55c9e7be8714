import ModelSchema.Manifest.Reader
import ModelSchema.Proofs.Lists

/-!
# Where rules are written in a manifest

A rule stands in the list of validators of a field, which stands in the list of fields of a model,
which stands in the list of models.  A manifest that can be read has at each such place the rule
that is read from what is written there.

Main result:

- Theorem `Encoding.exists_rule_of_ruleAt?`: the rule at a place of a manifest.
-/

namespace ModelSchema

/-- The place of a rule: of the model, of the field in the model, and of the rule in the field. -/
structure RulePlace where
  model : Nat
  field : Nat
  rule : Nat

namespace Encoding

variable {ν : Type} {e : Encoding ν} {value : ν}

/-- The part of a record with a name, if the record has it. -/
def partAt? (e : Encoding ν) (names : List String) (name : String) (value : ν) : Option ν :=
  (e.parts? names value).bind (·.lookup name)

/-- The item of a list at a place. -/
def itemAt? (e : Encoding ν) (i : Nat) (value : ν) : Option ν := (e.list? value).bind (·[i]?)

/-- What is written as the rule at a place. -/
def ruleAt? (e : Encoding ν) (place : RulePlace) (value : ν) : Option ν := do
  let models ← e.partAt? ["models"] "models" value
  let model ← e.itemAt? place.model models
  let fields ← e.partAt? ["name", "extends", "fields"] "fields" model
  let field ← e.itemAt? place.field fields
  let rules ← e.partAt? ["name", "kind", "required", "target", "validators"] "validators" field
  e.itemAt? place.rule rules

/-! ## Lists of parts -/

/-- Each item of a list is read on its own. -/
theorem exists_getElem?_of_listOf? {β : Type} {read : ν → Option β} {all : List β} {i : Nat}
    {item : ν} (hall : e.listOf? read value = some all) (hitem : e.itemAt? i value = some item) :
    ∃ b, all[i]? = some b ∧ read item = some b := by
  obtain ⟨items, hlist, hread⟩ := Option.bind_eq_some_iff.mp hall
  rw [itemAt?, hlist, Option.bind_some] at hitem
  have hpartner := optionRel_getElem? (forall₂_of_mapM hread) i
  rw [hitem] at hpartner
  cases h : all[i]? with
  | none => rw [h] at hpartner; cases hpartner
  | some b =>
    rw [h] at hpartner
    cases hpartner with
    | some hb => exact ⟨b, rfl, hb⟩

/-- A part that is there is read, whether or not it could be missing. -/
theorem read_of_part? {β : Type} {parts : List (String × ν)} {name : String} {default b : β}
    {read : ν → Option β} {part : ν} (h : part? parts name default read = some b)
    (hpart : parts.lookup name = some part) : read part = some b := by
  rwa [part?, hpart] at h

theorem listOf?_models {m : Manifest} (hm : e.manifest? value = some m) {models : ν}
    (hpart : e.partAt? ["models"] "models" value = some models) :
    e.listOf? e.model? models = some m.models := by
  obtain ⟨parts, hparts, hm⟩ := Option.bind_eq_some_iff.mp hm
  obtain ⟨all, hall, hm⟩ := Option.bind_eq_some_iff.mp hm
  cases hm
  rw [partAt?, hparts, Option.bind_some] at hpart
  rwa [requiredPart?, hpart, Option.bind_some] at hall

theorem listOf?_fields {entry : ModelEntry} (hentry : e.model? value = some entry) {fields : ν}
    (hpart : e.partAt? ["name", "extends", "fields"] "fields" value = some fields) :
    e.listOf? e.field? fields = some entry.fields := by
  obtain ⟨parts, hparts, hentry⟩ := Option.bind_eq_some_iff.mp hentry
  obtain ⟨name, -, hentry⟩ := Option.bind_eq_some_iff.mp hentry
  obtain ⟨parent, -, hentry⟩ := Option.bind_eq_some_iff.mp hentry
  obtain ⟨all, hall, hentry⟩ := Option.bind_eq_some_iff.mp hentry
  cases hentry
  rw [partAt?, hparts, Option.bind_some] at hpart
  exact read_of_part? hall hpart

theorem listOf?_rules {entry : FieldEntry} (hentry : e.field? value = some entry) {rules : ν}
    (hpart : e.partAt? ["name", "kind", "required", "target", "validators"] "validators" value =
      some rules) :
    e.listOf? e.rule? rules = some entry.rules := by
  obtain ⟨parts, hparts, hentry⟩ := Option.bind_eq_some_iff.mp hentry
  obtain ⟨name, -, hentry⟩ := Option.bind_eq_some_iff.mp hentry
  obtain ⟨kind, -, hentry⟩ := Option.bind_eq_some_iff.mp hentry
  obtain ⟨required, -, hentry⟩ := Option.bind_eq_some_iff.mp hentry
  obtain ⟨target, -, hentry⟩ := Option.bind_eq_some_iff.mp hentry
  obtain ⟨all, hall, hentry⟩ := Option.bind_eq_some_iff.mp hentry
  cases hentry
  rw [partAt?, hparts, Option.bind_some] at hpart
  exact read_of_part? hall hpart

/-! ## Manifests -/

/-- A manifest that can be read has at each place the rule that is read from what is written
there. -/
theorem exists_rule_of_ruleAt? {m : Manifest} (hm : e.manifest? value = some m)
    {place : RulePlace} {written : ν} (h : e.ruleAt? place value = some written) :
    ∃ entry field rule, m.models[place.model]? = some entry ∧
      entry.fields[place.field]? = some field ∧ field.rules[place.rule]? = some rule ∧
        e.rule? written = some rule := by
  obtain ⟨models, hmodels, h⟩ := Option.bind_eq_some_iff.mp h
  obtain ⟨model, hmodel, h⟩ := Option.bind_eq_some_iff.mp h
  obtain ⟨fields, hfields, h⟩ := Option.bind_eq_some_iff.mp h
  obtain ⟨fieldValue, hfield, h⟩ := Option.bind_eq_some_iff.mp h
  obtain ⟨rules, hrules, hrule⟩ := Option.bind_eq_some_iff.mp h
  obtain ⟨entry, hentry, hmodelRead⟩ :=
    exists_getElem?_of_listOf? (listOf?_models hm hmodels) hmodel
  obtain ⟨field, hfieldEntry, hfieldRead⟩ :=
    exists_getElem?_of_listOf? (listOf?_fields hmodelRead hfields) hfield
  obtain ⟨rule, hruleEntry, hruleRead⟩ :=
    exists_getElem?_of_listOf? (listOf?_rules hfieldRead hrules) hrule
  exact ⟨entry, field, rule, hentry, hfieldEntry, hruleEntry, hruleRead⟩

end Encoding
end ModelSchema
