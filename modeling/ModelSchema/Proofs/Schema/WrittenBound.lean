import ModelSchema.Proofs.Manifest.Place
import ModelSchema.Proofs.Schema.Bounds
import ModelSchema.Proofs.Schema.Choice

/-!
# Bounds that are written as integers

A bound that is written in a manifest as an integer of 64 bits stands in the schema of every model
that has the field in that form.  There it is the same integer if it has a place among the signed
ones, and otherwise the double nearest to it, as bounds beyond the signed integers are read as
doubles.

Main results:

- Theorem `Json.WritesBound.exists_rule`: the rule that is read from an integer bound.
- Theorem `Side.getLast?_bounds_of_build`: the last bound of a side, from the rules of a field.
- Theorem `Catalog.bound_of_compileNamed`: the last bound of a side, in the schemas of models.
- Theorem `Catalog.integerBound_of_compileNamed`: an integer bound in the schemas of models.
-/

namespace ModelSchema

open Draft4

/-! ## Rules in JSON -/

namespace Side

/-- The name of the rules for bounds of a side. -/
def ruleName : Side → String
  | lower => "min"
  | upper => "max"

/-- The rule for a bound of a side. -/
def rule : Side → WrittenBound → Bool → Rule
  | lower => .min
  | upper => .max

theorem parameters?_ruleName (side : Side) :
    Content.parameters? side.ruleName = some ["bound", "exclusive"] := by
  cases side <;> rfl

/-- A rule for a bound has a bound, and may say that it excludes itself. -/
theorem ruleOf?_ruleName (side : Side) (parts : List (String × Content)) :
    Content.ruleOf? side.ruleName parts =
      (requiredPart? parts "bound" Content.bound?).bind fun bound =>
        (part? parts "exclusive" false Content.bool?).bind fun exclusive =>
          some (side.rule bound exclusive) := by
  cases side <;> rfl

/-- An integer of 64 bits, signed or not, makes a rule with the bound that it is read as. -/
theorem exists_rule_of_ruleOf? {side : Side} {n : Int} (hn : Json.fitsInteger n = true)
    {parts : List (String × Content)} (hbound : parts.lookup "bound" = some (.int n)) {read : Rule}
    (h : Content.ruleOf? side.ruleName parts = some read) :
    ∃ exclusive, read = side.rule (.ofNumber (.int n)) exclusive := by
  have hread : (Content.int n).bound? = some (.ofNumber (.int n)) := by
    simp only [Json.fitsInteger, Bool.and_eq_true, decide_eq_true_eq] at hn
    rw [Content.bound?, if_pos hn]
  rw [ruleOf?_ruleName, requiredPart?, hbound, Option.bind_some, hread, Option.bind_some] at h
  obtain ⟨exclusive, -, hrule⟩ := Option.bind_eq_some_iff.mp h
  cases hrule
  exact ⟨exclusive, rfl⟩

end Side

namespace Json

/-- A rule in JSON has an integer as its bound of a side: under the name of the parameter, or as the
first one if the parameters have no names. -/
def WritesBound (side : Side) (n : Int) : Json → Prop
  | .object members => OrderedMap.value? members "rule" = some (.string side.ruleName) ∧
      OrderedMap.value? members "bound" = some (.int n)
  | .array items => ∃ others, items = .string side.ruleName :: .int n :: others
  | _ => False

/-- Parameters that are written by name keep their names. -/
theorem mapM_contentMembers (names : List String) (members : List (String × Json)) :
    (contentMembers members).mapM (fun (key, value) =>
        (Content.parameterName? names key).map fun name => (name, value)) =
      some (members.map fun member => (member.1, member.2.content)) := by
  induction members with
  | nil => rfl
  | cons member rest ih =>
    obtain ⟨name, value⟩ := member
    rw [contentMembers, List.mapM_cons, ih]
    rfl

theorem lookup_map_content (members : List (String × Json)) (name : String) :
    (members.map fun member => (member.1, member.2.content)).lookup name =
      (OrderedMap.value? members name).map content := by
  induction members with
  | nil => rfl
  | cons member rest ih =>
    obtain ⟨key, value⟩ := member
    by_cases hkey : key = name
    · simp [OrderedMap.value?, hkey]
    · have hbeq : (name == key) = false := by simpa using Ne.symm hkey
      simp only [List.map_cons, List.lookup_cons, hbeq, OrderedMap.value?, if_neg hkey]
      exact ih

variable {side : Side} {n : Int} {read : Rule}

theorem exists_rule_byKey (hn : fitsInteger n = true) {members : List (String × Json)}
    (hbound : OrderedMap.value? members "bound" = some (.int n))
    (h : (Parameters.byKey (contentMembers members)).rule? side.ruleName = some read) :
    ∃ exclusive, read = side.rule (.ofNumber (.int n)) exclusive := by
  rw [Parameters.rule?, side.parameters?_ruleName] at h
  obtain ⟨names, hnames, h⟩ := Option.bind_eq_some_iff.mp h
  cases hnames
  rw [mapM_contentMembers] at h
  obtain ⟨parts, hparts, h⟩ := Option.bind_eq_some_iff.mp h
  cases hparts
  split_ifs at h
  refine Side.exists_rule_of_ruleOf? hn ?_ h
  rw [lookup_map_content, hbound]
  rfl

theorem exists_rule_inOrder (hn : fitsInteger n = true) {others : List Json}
    (h : (Parameters.inOrder (contentItems (.int n :: others))).rule? side.ruleName = some read) :
    ∃ exclusive, read = side.rule (.ofNumber (.int n)) exclusive := by
  rw [Parameters.rule?, side.parameters?_ruleName] at h
  obtain ⟨names, hnames, h⟩ := Option.bind_eq_some_iff.mp h
  cases hnames
  obtain ⟨parts, hparts, h⟩ := Option.bind_eq_some_iff.mp h
  rw [positional?] at hparts
  split_ifs at hparts
  cases hparts
  exact Side.exists_rule_of_ruleOf? hn rfl h

/-- A rule that is written with an integer as its bound is read with it. -/
theorem WritesBound.exists_rule {written : Json} (h : written.WritesBound side n)
    (hn : fitsInteger n = true) (hread : encoding.rule? written = some read) :
    ∃ exclusive, read = side.rule (.ofNumber (.int n)) exclusive := by
  obtain ⟨⟨name, parameters⟩, hnamed, hrule⟩ := Option.bind_eq_some_iff.mp hread
  cases written with
  | object members =>
    obtain ⟨hname, hbound⟩ := h
    simp only [encoding, List.partition_eq_filter_filter] at hnamed
    split at hnamed
    case h_2 => cases hnamed
    case h_1 key text others heq =>
      cases hnamed
      obtain ⟨hfirst, hothers⟩ := Prod.mk.inj heq
      -- Only one member is the name of the rule, and the bound is among the others.
      have hrest : OrderedMap.value? others "bound" = some (.int n) := by
        rw [← hothers, ← hbound]
        exact OrderedMap.value?_filter (fun key => !decide (key = "rule")) rfl members
      have honly : OrderedMap.value? [(key, Json.string name)] "rule" =
          some (.string side.ruleName) := by
        rw [← hfirst, ← hname]
        exact OrderedMap.value?_filter (fun key => decide (key = "rule")) rfl members
      obtain rfl : name = side.ruleName := by
        simp only [OrderedMap.value?] at honly
        split_ifs at honly
        cases honly
        rfl
      exact exists_rule_byKey hn hrest hrule
  | array items =>
    obtain ⟨others, rfl⟩ := h
    cases hnamed
    exact exists_rule_inOrder hn hrule
  | _ => exact h.elim

end Json

/-! ## Bounds of fields -/

namespace Side

variable {side : Side} {bound : WrittenBound} {exclusive : Bool} {rules : List Rule}
  {validators : List Validator}

/-- The number that stands for an integer as a bound. -/
theorem finite_ofNumber_int (n : Int) (hn : Json.fitsInteger n = true) :
    (WrittenBound.ofNumber (.int n)).finite =
      .ok (if n < (1 <<< 63 : Nat) then .int n else .float (.ofInt n)) := by
  simp only [Json.fitsInteger, Bool.and_eq_true, decide_eq_true_eq] at hn
  have hfits : WrittenBound.fitsInt n = true ↔ n < (1 <<< 63 : Nat) := by
    simp only [WrittenBound.fitsInt, Bool.and_eq_true, decide_eq_true_eq]
    exact and_iff_right hn.1
  simp only [WrittenBound.ofNumber, hfits]
  by_cases hsmall : n < (1 <<< 63 : Nat)
  · rw [if_pos hsmall, if_pos hsmall]
    rfl
  · rw [if_neg hsmall, if_neg hsmall]
    rfl

/-- The validator for a bound sets it. -/
theorem bound?_of_build {number : Number} (hfinite : bound.finite = .ok number)
    {validator : Validator} (h : (side.rule bound exclusive).build = .ok validator) :
    side.bound? validator = some ⟨number, exclusive⟩ := by
  cases side
  all_goals
    obtain ⟨found, hfound, rfl⟩ := map_eq_ok_iff.mp h
    rw [hfinite] at hfound
    cases hfound
    rfl

/-- Only rules for bounds of a side set bounds of it. -/
theorem exists_rule_of_bound? {read : Rule} {validator : Validator}
    (h : read.build = .ok validator) {b : Bound} (hb : side.bound? validator = some b) :
    ∃ bound exclusive, read = side.rule bound exclusive := by
  cases read with
  | min bound exclusive =>
    obtain ⟨n, -, rfl⟩ := map_eq_ok_iff.mp h
    cases side with
    | lower => exact ⟨bound, exclusive, rfl⟩
    | upper => cases hb
  | max bound exclusive =>
    obtain ⟨n, -, rfl⟩ := map_eq_ok_iff.mp h
    cases side with
    | lower => cases hb
    | upper => exact ⟨bound, exclusive, rfl⟩
  | regex pattern ignoreCase =>
    obtain ⟨p, -, rfl⟩ := map_eq_ok_iff.mp h
    cases side <;> cases hb
  | length least most =>
    obtain rfl := Validator.eq_length_of_lengthBetween h
    cases side <;> cases hb

/-- The last bound of a side is that of the last rule for it. -/
theorem getLast?_bounds_of_build (hbuild : buildRules rules = .ok validators) {i : Nat}
    (hrule : rules[i]? = some (side.rule bound exclusive))
    (hlast : ∀ later ∈ rules.drop (i + 1), ∀ bound exclusive, later ≠ side.rule bound exclusive)
    {number : Number} (hfinite : bound.finite = .ok number) :
    (side.bounds validators).getLast? = some ⟨number, exclusive⟩ := by
  have hall := buildRules_eq_ok_iff.mp hbuild
  have hplace := optionRel_getElem? hall i
  rw [hrule, optionRel_iff] at hplace
  obtain ⟨hnone, -⟩ | ⟨_, validator, heq, hvalidator, hvalidatorBuild⟩ := hplace
  · cases hnone
  cases heq
  have hset := bound?_of_build hfinite hvalidatorBuild
  have hlater : side.bounds (validators.drop (i + 1)) = [] := by
    refine List.filterMap_eq_nil_iff.mpr fun later hmem => ?_
    obtain ⟨read, hread, hbuildLater⟩ :=
      exists_partner_of_mem_right (List.forall₂_drop (i + 1) hall) hmem
    by_contra hne
    obtain ⟨b, hb⟩ := Option.ne_none_iff_exists'.mp hne
    obtain ⟨bound, exclusive, rfl⟩ := exists_rule_of_bound? hbuildLater hb
    exact hlast _ hread bound exclusive rfl
  have hsplit : validators = validators.take i ++ validator :: validators.drop (i + 1) := by
    obtain ⟨hi, rfl⟩ := List.getElem?_eq_some_iff.mp hvalidator
    rw [List.cons_getElem_drop_succ, List.take_append_drop]
  rw [bounds] at hlater
  rw [bounds, hsplit, List.filterMap_append, List.filterMap_cons_some hset, hlater,
    List.getLast?_concat]

end Side

/-! ## Schemas -/

namespace Catalog

open Manifest

variable {τ : Type} [DecidableEq τ]

/-- The property of a field, in a model whose ancestors last declare the field in some form, has the
bound of the last rule of a side in that form. -/
theorem bound_of_compileNamed {m : Manifest} {c : Catalog τ} (hc : ofManifest m = .ok c)
    {line : List ModelEntry} {model : ModelEntry} (hmodel : model ∈ m.models)
    (hline : m.Lineage line model) {field : FieldEntry} (hfield : LastDeclared line field)
    {side : Side} {bound : WrittenBound} {exclusive : Bool} {i : Nat}
    (hrule : field.rules[i]? = some (side.rule bound exclusive))
    (hlast : ∀ later ∈ field.rules.drop (i + 1), ∀ bound exclusive,
      later ≠ side.rule bound exclusive)
    {number : Number} (hfinite : bound.finite = .ok number) {family : Family τ} {schema : Json}
    (hcompile : Scope.compileNamed ⟨family, some c⟩ model.name = .ok schema) :
    ∃ property, schema.property? field.name = some property ∧
      property.member? side.keyword = some (.number number) := by
  obtain ⟨hnodup, hall⟩ := resolves_of_ofManifest hc
  obtain ⟨r, -, hresolves⟩ := exists_partner_of_mem_left hall hmodel
  have hr : c.get? model.name = some r :=
    (get?_eq_some_iff hc).mpr ⟨model, findNamed_of_mem hnodup hmodel, hresolves⟩
  obtain ⟨f, hbuild, hget⟩ := hresolves.exists_get?_of_lastDeclared hline hfield
  obtain ⟨fragment, hproperty, base, -, rfl⟩ :=
    exists_property?_of_compileNamed hc hcompile hr (OrderedMap.mem_of_value? hget)
  have hrules : buildRules field.rules = .ok f.validators :=
    (FieldEntry.build_eq_ok_iff.mp hbuild).2.2.2
  have hstandard : ∀ validator ∈ f.validators, validator.Standard := by
    intro validator hvalidator
    obtain ⟨rule, -, hrule⟩ :=
      exists_partner_of_mem_right (buildRules_eq_ok_iff.mp hrules) hvalidator
    exact (Rule.builtIn_of_build hrule).standard
  refine ⟨_, hproperty, ?_⟩
  rw [Json.member?]
  change OrderedMap.value? (Validator.contributeAll f.validators base) side.keyword = _
  rw [side.value?_contributeAll_keyword hstandard,
    Side.getLast?_bounds_of_build hrules hrule hlast hfinite]
  rfl

/-- An integer of 64 bits that a manifest has as the bound of a rule stands in the schema of every
model that has the field in that form, unless a later rule of the field replaces it.  It is the same
integer there if it is below `2 ^ 63`, and the double nearest to it otherwise. -/
theorem integerBound_of_compileNamed {value : Json} {m : Manifest}
    (hm : Json.encoding.manifest? value = some m) {c : Catalog τ} (hc : ofManifest m = .ok c)
    {place : RulePlace} {written : Json}
    (hwritten : Json.encoding.ruleAt? place value = some written) {side : Side} {n : Int}
    (hbound : written.WritesBound side n) (hn : Json.fitsInteger n = true) :
    ∃ entry field, m.models[place.model]? = some entry ∧
      entry.fields[place.field]? = some field ∧
      ((∀ later ∈ field.rules.drop (place.rule + 1), ∀ bound exclusive,
          later ≠ side.rule bound exclusive) →
        ∀ line model, model ∈ m.models → m.Lineage line model → LastDeclared line field →
          ∀ (family : Family τ) schema,
            Scope.compileNamed ⟨family, some c⟩ model.name = .ok schema →
              ∃ property, schema.property? field.name = some property ∧
                property.member? side.keyword = some (.number
                  (if n < (1 <<< 63 : Nat) then .int n else .float (.ofInt n)))) := by
  obtain ⟨entry, field, rule, hentry, hfield, hrule, hread⟩ :=
    Encoding.exists_rule_of_ruleAt? hm hwritten
  obtain ⟨exclusive, rfl⟩ := hbound.exists_rule hn hread
  refine ⟨entry, field, hentry, hfield, ?_⟩
  intro hlast line model hmodel hline hdeclared family schema
  exact bound_of_compileNamed hc hmodel hline hdeclared hrule hlast (Side.finite_ofNumber_int n hn)

/-- A reading of a gauge is within the range of signed and unsigned integers. -/
def gaugeEntry : Json :=
  .object [("name", .string "gauge"), ("fields", .array [.object [("name", .string "reading"),
    ("kind", .string "int"), ("validators", .array [
      .object [("rule", .string "min"), ("bound", .int (-9223372036854775808))],
      .array [.string "max", .int 18446744073709551615]])]])]

/-- A meter is a gauge. -/
def meterEntry : Json := .object [("name", .string "meter"), ("extends", .string "gauge")]

/-- Meters and gauges. -/
def gaugesValue : Json := .object [("models", .array [meterEntry, gaugeEntry])]

/-- A gauge, as it is declared. -/
def gauge (most : Binary64) : ModelEntry :=
  ⟨"gauge", none, [⟨"reading", "int", false, none, [.min (.int (-9223372036854775808)) false,
    .max (.float (.finite most)) false]⟩]⟩

/-- Meters and gauges, as they are declared. -/
def gauges (most : Binary64) : Manifest := ⟨[⟨"meter", some "gauge", []⟩, gauge most]⟩

/-- The readings of meters and gauges. -/
def reading (most : Binary64) : Field Empty :=
  ⟨.scalar .int, false, [.min (.int (-9223372036854775808)) false, .max (.float most) false]⟩

/-- The models of meters and gauges. -/
def gaugesCatalog (most : Binary64) : Catalog Empty :=
  ⟨[⟨"meter", .named "meter", [("reading", reading most)]⟩,
    ⟨"gauge", .named "gauge", [("reading", reading most)]⟩]⟩

/-- The schema of a meter. -/
def meterSchema (most : Binary64) : Json :=
  .object [("type", .string "object"), ("properties", .object [("reading",
    .object [("type", .string "integer"), ("minimum", .int (-9223372036854775808)),
      ("maximum", .number (.float most))])])]

theorem manifest?_gauges :
    Json.encoding.manifest? gaugesValue = some (gauges (.ofInt 18446744073709551615)) := by
  decide +kernel

theorem ofManifest_gauges (most : Binary64) :
    ofManifest (gauges most) = .ok (gaugesCatalog most) := by
  cbv

theorem compileNamed_meter (most : Binary64) :
    Scope.compileNamed ⟨.none, some (gaugesCatalog most)⟩ "meter" = .ok (meterSchema most) := by
  cbv

/-- The least signed integer of 64 bits is the lower bound of the readings of meters. -/
theorem minimum_reading :
    ∃ property, (meterSchema (.ofInt 18446744073709551615)).property? "reading" = some property ∧
      property.member? "minimum" = some (.int (-9223372036854775808)) := by
  obtain ⟨entry, field, hentry, hfield, hschema⟩ :=
    integerBound_of_compileNamed manifest?_gauges (ofManifest_gauges _)
      (show Json.encoding.ruleAt? ⟨1, 0, 0⟩ gaugesValue = _ from rfl)
      (show Json.WritesBound .lower (-9223372036854775808) _ from ⟨rfl, rfl⟩) (by decide)
  cases hentry
  cases hfield
  refine hschema ?_ _ _ List.mem_cons_self (.child rfl (by rfl) (.root rfl))
    ⟨[], gauge _, [_], rfl, List.mem_cons_self, List.forall_mem_singleton.mpr List.not_mem_nil⟩
    .none _ (compileNamed_meter _)
  -- After the lower bound there is only an upper one.
  intro later hlater bound exclusive
  obtain rfl := List.mem_singleton.mp hlater
  nofun

/-- The greatest unsigned integer of 64 bits is written as the upper bound of the readings of
gauges, and a meter has a double there. -/
theorem maximum_reading :
    ∃ most written property, Json.encoding.manifest? gaugesValue = some (gauges most) ∧
      ofManifest (gauges most) = .ok (gaugesCatalog most) ∧
      Scope.compileNamed ⟨.none, some (gaugesCatalog most)⟩ "meter" = .ok (meterSchema most) ∧
      Json.encoding.ruleAt? ⟨1, 0, 1⟩ gaugesValue = some written ∧
      written.WritesBound .upper 18446744073709551615 ∧
      Json.fitsInteger 18446744073709551615 = true ∧
      (meterSchema most).property? "reading" = some property ∧
      property.member? "maximum" ≠ some (.int 18446744073709551615) := by
  refine ⟨_, _, _, manifest?_gauges, ofManifest_gauges _, compileNamed_meter _, rfl, ⟨[], rfl⟩,
    by decide, rfl, ?_⟩
  nofun

end Catalog
end ModelSchema
