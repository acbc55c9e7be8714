import ModelSchema.Proofs.Json.Value
import ModelSchema.Schema.Draft4.Validation

/-!
# Schemas without references

What a value fails under a schema depends on the document around the schema only where the schema
refers to it.  Without references, each keyword is checked by the failures under the schemas that
its value holds, and by nothing else.

Main results:

- Theorem `Draft4.ReferenceFree.ruleWith_congr`: references that do not occur need not be followed.
- Theorem `Draft4.failures_object`: the failures under a schema, keyword by keyword.
-/

namespace ModelSchema
namespace Draft4

/-- No object in a value has a text under `$ref`, at any depth. -/
inductive ReferenceFree : Json → Prop where
  | null : ReferenceFree .null
  | bool (value : Bool) : ReferenceFree (.bool value)
  | number (value : Number) : ReferenceFree (.number value)
  | string (value : String) : ReferenceFree (.string value)
  | array {items : List Json} (hitems : ∀ item ∈ items, ReferenceFree item) :
      ReferenceFree (.array items)
  | object {members : List (String × Json)} (hself : ∀ text, ("$ref", .string text) ∉ members)
      (hmembers : ∀ member ∈ members, ReferenceFree member.2) : ReferenceFree (.object members)

theorem referenceFree_array_iff {items : List Json} :
    ReferenceFree (.array items) ↔ ∀ item ∈ items, ReferenceFree item := by
  constructor
  · intro h
    cases h with
    | array hitems => exact hitems
  · exact .array

theorem referenceFree_object_iff {members : List (String × Json)} :
    ReferenceFree (.object members) ↔
      ∀ member ∈ members, (∀ text, member ≠ ("$ref", .string text)) ∧ ReferenceFree member.2 := by
  constructor
  · intro h
    cases h with
    | object hself hmembers =>
      refine fun member hmember => ⟨?_, hmembers member hmember⟩
      rintro text rfl
      exact hself text hmember
  · intro h
    exact .object (fun text hmem => (h _ hmem).1 text rfl) fun member hmember => (h _ hmember).2

/-! ## Checks of parts -/

section Parts

variable (follow : String → Check)

/-- The rule of a keyword with a value. -/
def ruleWith (value : Json) : Rule :=
  ⟨value, failuresWith follow value, namedWith follow value, listedWith follow value⟩

theorem rulesWith_eq_map (members : List (String × Json)) :
    rulesWith follow members = members.map fun member => (member.1, ruleWith follow member.2) := by
  induction members with
  | nil => rw [rulesWith, List.map_nil]
  | cons member rest ih =>
    rw [rulesWith, ih]
    rfl

theorem namedWith_object (members : List (String × Json)) :
    namedWith follow (.object members) =
      members.map fun member => (member.1, failuresWith follow member.2) := by
  rw [namedWith]
  induction members with
  | nil => rw [membersWith, List.map_nil]
  | cons member rest ih =>
    rw [membersWith, ih]
    rfl

theorem listedWith_array (items : List Json) :
    listedWith follow (.array items) = items.map (failuresWith follow) := by
  rw [listedWith]
  induction items with
  | nil => rw [itemsWith, List.map_nil]
  | cons item rest ih =>
    rw [itemsWith, ih]
    rfl

/-- A reference that is no text is not followed. -/
theorem failuresWith_object {members : List (String × Json)}
    (hself : ∀ text, ("$ref", .string text) ∉ members) (value : Json) :
    failuresWith follow (.object members) value =
      (rulesWith follow members).flatMap fun entry =>
        keywordFailures members (rulesWith follow members) entry.1 entry.2 value := by
  rw [failuresWith]
  split
  · rename_i reference href
    exact absurd (OrderedMap.mem_of_value? href) (hself reference)
  · rfl

/-- A value that is no object finds nothing wrong as a schema. -/
theorem failuresWith_of_ne_object {schema : Json} (h : ∀ members, schema ≠ .object members) :
    failuresWith follow schema = fun _ => [] := by
  funext value
  cases schema with
  | object members => exact absurd rfl (h members)
  | _ => simp only [failuresWith]

end Parts

/-! ## References that do not occur -/

/-- References that do not occur need not be followed, whatever the value is taken for. -/
theorem ReferenceFree.ruleWith_congr {schema : Json} (h : ReferenceFree schema)
    (follow follow' : String → Check) : ruleWith follow schema = ruleWith follow' schema := by
  induction h with
  | null => simp [ruleWith, failuresWith_of_ne_object, namedWith, listedWith]
  | bool value => simp [ruleWith, failuresWith_of_ne_object, namedWith, listedWith]
  | number value => simp [ruleWith, failuresWith_of_ne_object, namedWith, listedWith]
  | string value => simp [ruleWith, failuresWith_of_ne_object, namedWith, listedWith]
  | @array items hitems ih =>
    have hlisted : listedWith follow (.array items) = listedWith follow' (.array items) := by
      rw [listedWith_array, listedWith_array]
      exact List.map_congr_left fun item hitem => congrArg Rule.check (ih item hitem)
    simp [ruleWith, failuresWith_of_ne_object, namedWith, hlisted]
  | @object members hself hmembers ih =>
    have hrules : rulesWith follow members = rulesWith follow' members := by
      rw [rulesWith_eq_map, rulesWith_eq_map]
      exact List.map_congr_left fun member hmember => by rw [ih member hmember]
    have hfailures : failuresWith follow (.object members) =
        failuresWith follow' (.object members) := by
      funext value
      rw [failuresWith_object _ hself, failuresWith_object _ hself, hrules]
    have hnamed : namedWith follow (.object members) = namedWith follow' (.object members) := by
      rw [namedWith_object, namedWith_object]
      refine List.map_congr_left fun member hmember => ?_
      exact congrArg (Prod.mk member.1) (congrArg Rule.check (ih member hmember))
    simp [ruleWith, hfailures, hnamed, listedWith]

/-- A schema without references has the failures that it has on its own, in whatever document. -/
theorem ReferenceFree.failuresWith_eq {schema : Json} (h : ReferenceFree schema)
    (follow : String → Check) : failuresWith follow schema = failures schema := by
  have hfollow : ∀ follow', failuresWith follow schema = failuresWith follow' schema :=
    fun follow' => congrArg Rule.check (h.ruleWith_congr follow follow')
  funext value
  rw [failures]
  cases size schema * size value with
  | zero => rw [failuresWithin, hfollow]
  | succ depth => rw [failuresWithin, hfollow]

/-! ## Failures keyword by keyword -/

/-- The rule of a keyword whose value holds schemas that stand on their own. -/
def ruleOf (value : Json) : Rule where
  value := value
  check := failures value
  named := match value with
    | .object members => members.map fun member => (member.1, failures member.2)
    | _ => []
  listed := match value with
    | .array items => items.map failures
    | _ => []

/-- The rules of a schema whose keywords hold schemas that stand on their own. -/
def rulesOf (members : Json.Members) : Rules :=
  members.map fun member => (member.1, ruleOf member.2)

/-- A value without references holds schemas that stand on their own. -/
theorem ReferenceFree.ruleWith_eq {schema : Json} (h : ReferenceFree schema)
    (follow : String → Check) : ruleWith follow schema = ruleOf schema := by
  have hfailures := h.failuresWith_eq follow
  cases h with
  | array hitems =>
    rw [ruleWith, hfailures, listedWith_array,
      List.map_congr_left fun item hitem => (hitems item hitem).failuresWith_eq follow]
    rfl
  | object hself hmembers =>
    rw [ruleWith, hfailures, namedWith_object, List.map_congr_left fun member hmember =>
      congrArg (Prod.mk member.1) ((hmembers member hmember).failuresWith_eq follow)]
    rfl
  | _ =>
    rw [ruleWith, hfailures]
    rfl

/-- The failures of a value under a schema without references are those under its keywords. -/
theorem failures_object {members : Json.Members} (h : ReferenceFree (.object members))
    (value : Json) :
    failures (.object members) value =
      members.flatMap fun member =>
        keywordFailures members (rulesOf members) member.1 (ruleOf member.2) value := by
  rw [← h.failuresWith_eq fun _ _ => []]
  cases h with
  | object hself hmembers =>
    have hrules : rulesWith (fun _ _ => []) members = rulesOf members := by
      rw [rulesWith_eq_map]
      exact List.map_congr_left fun member hmember => by rw [(hmembers member hmember).ruleWith_eq]
    rw [failuresWith_object _ hself, hrules, rulesOf, List.flatMap_map]

end Draft4
end ModelSchema
