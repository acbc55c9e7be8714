import ModelSchema.Proofs.Number.Exact
import ModelSchema.Proofs.Schema.Lengths

/-!
# Bounds of numbers

A field may have several lower and several upper bounds.  Each of them is checked, but of each side
only the last one is written, and whether it excludes itself is decided by all bounds of its side:
the keyword that says so is never taken back.  A number that passes the checks therefore conforms
unless it is a last bound that admits itself, behind one that does not.

Main results:

- Theorem `Validator.isValid_contributeAll_number_iff`: what the written bounds say of a number.
- Theorem `Field.isValid_iff_of_checks`: when a value that passes the checks conforms.
-/

namespace ModelSchema

open Draft4

/-- A bound, and whether it excludes itself. -/
structure Bound where
  value : Number
  exclusive : Bool

/-- The sides from which numbers are bounded. -/
inductive Side where
  | lower
  | upper

namespace Side

/-- The keyword of the bounds of a side. -/
def keyword : Side → String
  | lower => "minimum"
  | upper => "maximum"

/-- The keyword that lets the bound of a side exclude itself. -/
def exclusiveKeyword : Side → String
  | lower => "exclusiveMinimum"
  | upper => "exclusiveMaximum"

/-- The bound that a validator sets on a side. -/
def bound? : Side → Validator → Option Bound
  | lower, .min value exclusive => some ⟨value, exclusive⟩
  | upper, .max value exclusive => some ⟨value, exclusive⟩
  | _, _ => none

/-- The bounds that validators set on a side, in order. -/
def bounds (side : Side) (validators : List Validator) : List Bound :=
  validators.filterMap side.bound?

/-- A number is off a bound, on the side that the bound leaves. -/
def Within (side : Side) (bound n : Number) : Prop :=
  match side with
  | lower => bound.units < n.units
  | upper => n.units < bound.units

/-- A bound admits the numbers on the side that it leaves, and itself unless it is exclusive. -/
def Admits (side : Side) (b : Bound) (n : Number) : Prop :=
  side.Within b.value n ∨ b.exclusive = false ∧ b.value.units = n.units

theorem admits_lower_iff {b : Bound} {n : Number} :
    lower.Admits b n ↔
      if b.exclusive then b.value.units < n.units else b.value.units ≤ n.units := by
  obtain ⟨value, exclusive⟩ := b
  cases exclusive with
  | false =>
    simp only [Admits, Within, Bool.false_eq_true, if_false, true_and]
    omega
  | true => simp [Admits, Within]

theorem admits_upper_iff {b : Bound} {n : Number} :
    upper.Admits b n ↔
      if b.exclusive then n.units < b.value.units else n.units ≤ b.value.units := by
  obtain ⟨value, exclusive⟩ := b
  cases exclusive with
  | false =>
    simp only [Admits, Within, Bool.false_eq_true, if_false, true_and]
    omega
  | true => simp [Admits, Within]

/-- A bound that excludes itself admits the numbers off it. -/
theorem admits_exclusive_iff {side : Side} {value n : Number} :
    side.Admits ⟨value, true⟩ n ↔ side.Admits ⟨value, false⟩ n ∧ value.units ≠ n.units := by
  cases side with
  | lower =>
    simp only [admits_lower_iff, if_true, Bool.false_eq_true, if_false]
    omega
  | upper =>
    simp only [admits_upper_iff, if_true, Bool.false_eq_true, if_false]
    omega

/-! ## Checks -/

/-- A number passes a check exactly if the bound admits it. -/
theorem check_eq_none_iff {side : Side} {validator : Validator} {b : Bound} {n : Number}
    (hb : side.bound? validator = some b) (hbound : b.value.Moderate) (hn : n.Moderate) :
    validator.check (.number n) = none ↔ side.Admits b n := by
  have hvalue := Number.units_toBinary64 hbound
  have hnumber := Number.units_toBinary64 hn
  cases side with
  | lower =>
    cases validator with
    | min value exclusive =>
      cases hb
      rw [admits_lower_iff]
      cases exclusive <;> simp_all [Validator.check, Validator.less, Validator.lessEq]
    | _ => cases hb
  | upper =>
    cases validator with
    | max value exclusive =>
      cases hb
      rw [admits_upper_iff]
      cases exclusive <;> simp_all [Validator.check, Validator.less, Validator.lessEq]
    | _ => cases hb

/-! ## Keywords -/

section Keywords

variable {siblings : Json.Members} {rules : Rules}

/-- A written bound, with the keyword beside it that may let it exclude itself. -/
theorem keywordFailures_keyword (side : Side) (bound n : Number) :
    keywordFailures siblings rules side.keyword (ruleOf (.number bound)) (.number n) = [] ↔
      side.Admits ⟨bound, isExclusive siblings side.exclusiveKeyword⟩ n := by
  cases side with
  | lower =>
    change belowFailures (isExclusive siblings "exclusiveMinimum") bound (.number n) = [] ↔
      lower.Admits ⟨bound, isExclusive siblings "exclusiveMinimum"⟩ n
    rw [belowFailures, admits_lower_iff]
    cases isExclusive siblings "exclusiveMinimum" <;> simp
  | upper =>
    change aboveFailures (isExclusive siblings "exclusiveMaximum") bound (.number n) = [] ↔
      upper.Admits ⟨bound, isExclusive siblings "exclusiveMaximum"⟩ n
    rw [aboveFailures, admits_upper_iff]
    cases isExclusive siblings "exclusiveMaximum" <;> simp

/-- Of the keywords of validators, only bounds restrict numbers. -/
theorem keywordFailures_number {key : String} (hkey : key ∈ validatorKeywords)
    (hside : ∀ side : Side, key ≠ side.keyword) (rule : Draft4.Rule) (n : Number) :
    keywordFailures siblings rules key rule (.number n) = [] := by
  obtain ⟨part, check, named, listed⟩ := rule
  simp only [validatorKeywords, List.mem_cons, List.not_mem_nil, or_false] at hkey
  rcases hkey with rfl | rfl | rfl | rfl | rfl | rfl | rfl
  · exact absurd rfl (hside .lower)
  · cases part <;> rfl
  · exact absurd rfl (hside .upper)
  all_goals
    cases part with
    | number n => cases n <;> rfl
    | _ => rfl

end Keywords

/-! ## Written bounds -/

variable {validators : List Validator}

/-- A bound is written as it is. -/
theorem value?_keywords (side : Side) {validator : Validator} (h : validator.Standard) :
    OrderedMap.value? validator.keywords.reverse side.keyword =
      (side.bound? validator).map fun b => .number b.value := by
  cases validator with
  | min value exclusive => cases side <;> cases exclusive <;> rfl
  | max value exclusive => cases side <;> cases exclusive <;> rfl
  | regex pattern => cases side <;> rfl
  | length least most => cases side <;> cases most <;> rfl
  | custom check keywords =>
    cases h
    cases side <;> rfl

/-- A bound that excludes itself says so, and one that does not writes nothing of it. -/
theorem value?_keywords_exclusive (side : Side) {validator : Validator} (h : validator.Standard) :
    OrderedMap.value? validator.keywords.reverse side.exclusiveKeyword =
      if (side.bound? validator).any (·.exclusive) then some (.bool true) else none := by
  cases validator with
  | min value exclusive => cases side <;> cases exclusive <;> rfl
  | max value exclusive => cases side <;> cases exclusive <;> rfl
  | regex pattern => cases side <;> rfl
  | length least most => cases side <;> cases most <;> rfl
  | custom check keywords =>
    cases h
    cases side <;> rfl

/-- Of the bounds of a side the last one is left. -/
theorem value?_contributeAll_keyword (side : Side)
    (hvalidators : ∀ validator ∈ validators, validator.Standard) (base : Fragment) :
    OrderedMap.value? (Validator.contributeAll validators base) side.keyword =
      ((side.bounds validators).getLast?.map fun b => .number b.value).or
        (OrderedMap.value? base side.keyword) :=
  Validator.value?_contributeAll
    (fun validator h => side.value?_keywords (hvalidators validator h)) base

/-- The keyword that a bound excludes itself is written by every such bound, and stays. -/
theorem value?_contributeAll_exclusiveKeyword (side : Side)
    (hvalidators : ∀ validator ∈ validators, validator.Standard) (base : Fragment) :
    OrderedMap.value? (Validator.contributeAll validators base) side.exclusiveKeyword =
      if (side.bounds validators).any (·.exclusive) then some (.bool true)
      else OrderedMap.value? base side.exclusiveKeyword := by
  have hany : (side.bounds validators).any (·.exclusive) =
      validators.any fun validator => (side.bound? validator).any (·.exclusive) := by
    rw [bounds, List.any_filterMap]
    rfl
  rw [hany]
  exact Validator.value?_contributeAll_flag
    (fun validator h => side.value?_keywords_exclusive (hvalidators validator h)) base

/-- What is written of a side is exclusive if some bound of the side is. -/
theorem isExclusive_contributeAll (side : Side)
    (hvalidators : ∀ validator ∈ validators, validator.BuiltIn) :
    isExclusive (Validator.contributeAll validators []) side.exclusiveKeyword =
      (side.bounds validators).any (·.exclusive) := by
  rw [isExclusive, side.value?_contributeAll_exclusiveKeyword
    fun validator h => (hvalidators validator h).standard]
  cases (side.bounds validators).any (·.exclusive) <;> rfl

/-- The last bound of a side admits a number that it is equal to, but a bound before it is
exclusive, so what is written does not admit the number. -/
def Overstated (side : Side) (validators : List Validator) (n : Number) : Prop :=
  ∃ last, (side.bounds validators).getLast? = some last ∧ last.exclusive = false ∧
    last.value.units = n.units ∧ ∃ b ∈ side.bounds validators, b.exclusive = true

end Side

namespace Validator

variable {validators : List Validator} {n : Number}

/-- What validators write admits a number if, on each side, the last bound does, taken as exclusive
if some bound of the side is. -/
theorem isValid_contributeAll_number_iff
    (hvalidators : ∀ validator ∈ validators, validator.BuiltIn) :
    isValid (.object (contributeAll validators [])) (.number n) = true ↔
      ∀ (side : Side) (last : Bound), (side.bounds validators).getLast? = some last →
        side.Admits ⟨last.value, (side.bounds validators).any (·.exclusive)⟩ n := by
  have hnodup := nodup_names_contributeAll validators
  have hstandard : ∀ validator ∈ validators, validator.Standard :=
    fun validator h => (hvalidators validator h).standard
  rw [isValid_object_iff (referenceFree_contributeAll hvalidators)]
  constructor
  · intro hall side last hlast
    have hwritten := side.value?_contributeAll_keyword hstandard []
    rw [hlast] at hwritten
    have hfailures := hall _ _ (OrderedMap.mem_of_value? hwritten)
    rwa [Side.keywordFailures_keyword, side.isExclusive_contributeAll hvalidators] at hfailures
  · intro hadmits key part hmember
    have hkey := names_contributeAll hvalidators key (OrderedMap.name_mem_of_mem hmember)
    by_cases hside : ∃ side : Side, key = side.keyword
    · obtain ⟨side, rfl⟩ := hside
      rw [← OrderedMap.value?_eq_some_iff hnodup,
        side.value?_contributeAll_keyword hstandard, OrderedMap.value?_nil, Option.or_none,
        Option.map_eq_some_iff] at hmember
      obtain ⟨last, hlast, rfl⟩ := hmember
      rw [Side.keywordFailures_keyword, side.isExclusive_contributeAll hvalidators]
      exact hadmits side last hlast
    · exact Side.keywordFailures_number hkey (fun side heq => hside ⟨side, heq⟩) _ n

/-- A number that is admitted by all bounds conforms unless it is overstated on some side. -/
theorem isValid_contributeAll_number_of_admits
    (hvalidators : ∀ validator ∈ validators, validator.BuiltIn)
    (hadmits : ∀ side : Side, ∀ b ∈ side.bounds validators, side.Admits b n) :
    isValid (.object (contributeAll validators [])) (.number n) = true ↔
      ∀ side : Side, ¬ side.Overstated validators n := by
  rw [isValid_contributeAll_number_iff hvalidators]
  constructor
  · rintro hall side ⟨last, hlast, -, hequal, b, hb, hexclusive⟩
    have hany : (side.bounds validators).any (·.exclusive) = true :=
      List.any_eq_true.mpr ⟨b, hb, hexclusive⟩
    have hlastAdmits := hall side last hlast
    rw [hany, Side.admits_exclusive_iff] at hlastAdmits
    exact hlastAdmits.2 hequal
  · rintro hnone side ⟨value, exclusive⟩ hlast
    have hself := hadmits side _ (List.mem_of_getLast? hlast)
    cases hany : (side.bounds validators).any (·.exclusive) with
    | false =>
      cases exclusive with
      | false => exact hself
      | true => exact (Side.admits_exclusive_iff.mp hself).1
    | true =>
      obtain ⟨b, hb, hexclusive⟩ := List.any_eq_true.mp hany
      cases exclusive with
      | false =>
        refine Side.admits_exclusive_iff.mpr ⟨hself, fun hequal => ?_⟩
        exact hnone side ⟨_, hlast, rfl, hequal, b, hb, hexclusive⟩
      | true => exact hself

/-- A value that is neither a number nor a string passes the check of a bound or length only if it
is an array, and arrays are not restricted. -/
theorem isValid_contributeAll_of_checks
    (hvalidators : ∀ validator ∈ validators, validator.Measures) {value : Json}
    (hnumber : ∀ n, value ≠ .number n)
    (hchecks : ∀ validator ∈ validators, validator.check value = none) :
    isValid (.object (contributeAll validators [])) value = true := by
  cases value with
  | number n => exact absurd rfl (hnumber n)
  | string s => exact isValid_contributeAll_string hvalidators hchecks
  | array values =>
    exact isValid_contributeAll_array (fun validator h => (hvalidators validator h).builtIn) values
  | _ =>
    -- Nothing else passes any check, so there is no validator.
    cases validators with
    | nil => rfl
    | cons validator rest =>
      rw [List.forall_mem_cons] at hvalidators hchecks
      cases validator with
      | regex pattern => exact hvalidators.1.elim
      | custom check keywords => exact hvalidators.1.elim
      | _ => cases hchecks.1

end Validator

/-! ## Fields -/

/-- The rules for bounds and lengths. -/
def Rule.Measures : Rule → Prop
  | .regex _ _ => False
  | _ => True

theorem Rule.Measures.of_build {rule : Rule} {validator : Validator} (hrule : rule.Measures)
    (h : rule.build = .ok validator) : validator.Measures := by
  cases rule with
  | min bound exclusive =>
    obtain ⟨n, -, rfl⟩ := map_eq_ok_iff.mp h
    trivial
  | max bound exclusive =>
    obtain ⟨n, -, rfl⟩ := map_eq_ok_iff.mp h
    trivial
  | regex pattern ignoreCase => exact hrule.elim
  | length least most =>
    obtain rfl := Validator.eq_length_of_lengthBetween h
    trivial

/-- A value of a scalar field that passes the checks of all bounds and lengths conforms to the
fragment of the field, unless it is a number that is overstated on some side.  Bounds and number
are read as doubles by the checks and as they are by the schema, which is the same up to the first
integer beyond 53 bits. -/
theorem Field.isValid_iff_of_checks {τ : Type} {rules : List Rule} {validators : List Validator}
    (hbuild : buildRules rules = .ok validators) (hrules : ∀ rule ∈ rules, rule.Measures)
    (hbounds : ∀ (side : Side), ∀ b ∈ side.bounds validators, b.value.Moderate)
    {kind : ScalarKind} {value : Json} (hkind : isValid (.object kind.fragment) value = true)
    (hvalue : ∀ n, value = .number n → n.Moderate)
    (hchecks : ∀ validator ∈ validators, validator.check value = none)
    (model : ModelKey τ → Except SchemaError Fragment) (required : Bool) :
    ∃ fragment, Field.fragment model ⟨.scalar kind, required, validators⟩ = .ok fragment ∧
      (isValid (.object fragment) value = true ↔
        ∀ n, value = .number n → ∀ side : Side, ¬ side.Overstated validators n) := by
  have hmeasures : ∀ validator ∈ validators, validator.Measures := by
    intro validator hvalidator
    obtain ⟨rule, hrule, hrulebuild⟩ :=
      exists_partner_of_mem_right (buildRules_eq_ok_iff.mp hbuild) hvalidator
    exact (hrules rule hrule).of_build hrulebuild
  have hbuiltIn : ∀ validator ∈ validators, validator.BuiltIn :=
    fun validator h => (hmeasures validator h).builtIn
  refine ⟨_, rfl, ?_⟩
  rw [Validator.isValid_contributeAll_iff hbuiltIn kind.referenceFree_fragment
    kind.names_fragment, and_iff_right hkind]
  by_cases hnumber : ∃ n, value = .number n
  · obtain ⟨n, rfl⟩ := hnumber
    have hadmits : ∀ side : Side, ∀ b ∈ side.bounds validators, side.Admits b n := by
      intro side b hb
      obtain ⟨validator, hvalidator, hbound⟩ := List.mem_filterMap.mp hb
      exact (Side.check_eq_none_iff hbound (hbounds side b hb) (hvalue n rfl)).mp
        (hchecks validator hvalidator)
    rw [Validator.isValid_contributeAll_number_of_admits hbuiltIn hadmits]
    constructor
    · rintro hnone _ ⟨⟩
      exact hnone
    · exact fun hnone => hnone n rfl
  · have hne : ∀ n, value ≠ .number n := fun n heq => hnumber ⟨n, heq⟩
    constructor
    · exact fun _ n heq => absurd heq (hne n)
    · exact fun _ => Validator.isValid_contributeAll_of_checks hmeasures hne hchecks

/-- A six is above three, not below five and not above nine. -/
theorem Field.isValid_six :
    ∃ fragment, Field.fragment (fun _ : ModelKey Empty => .error (.unknownModel ""))
        ⟨.scalar .int, true, [.min (.int 3) true, .min (.int 5) false, .max (.int 9) false]⟩ =
          .ok fragment ∧
      isValid (.object fragment) (.int 6) = true := by
  have hrules : ∀ rule ∈ [Rule.min (.int 3) true, .min (.int 5) false, .max (.int 9) false],
      rule.Measures := by
    simp [Rule.Measures]
  have hbounds : ∀ (side : Side), ∀ b ∈ side.bounds
      [.min (.int 3) true, .min (.int 5) false, .max (.int 9) false], b.value.Moderate := by
    intro side
    have hlow : (Number.int 3).Moderate ∧ (Number.int 5).Moderate := by decide +kernel
    have hhigh : (Number.int 9).Moderate := by decide +kernel
    cases side with
    | lower => exact List.forall_mem_cons.mpr ⟨hlow.1, List.forall_mem_singleton.mpr hlow.2⟩
    | upper => exact List.forall_mem_singleton.mpr hhigh
  have hvalue : ∀ n, Json.int 6 = .number n → n.Moderate := by
    rintro _ ⟨⟩
    decide +kernel
  have hchecks : ∀ validator ∈ [Validator.min (.int 3) true, .min (.int 5) false,
      .max (.int 9) false], validator.check (.int 6) = none := by
    decide +kernel
  obtain ⟨fragment, hfragment, hiff⟩ := Field.isValid_iff_of_checks rfl hrules hbounds
    (show isValid (.object ScalarKind.int.fragment) (.int 6) = true from rfl) hvalue hchecks
    (fun _ : ModelKey Empty => .error (.unknownModel "")) true
  refine ⟨fragment, hfragment, hiff.mpr ?_⟩
  -- The last bounds are five and nine.
  rintro _ ⟨⟩ side ⟨last, hlast, -, hequal, -⟩
  cases side with
  | lower =>
    cases hlast
    exact absurd hequal (by decide +kernel)
  | upper =>
    cases hlast
    exact absurd hequal (by decide +kernel)

/-- A five is above three and not below five, but the schema asks for more than five. -/
theorem Field.not_isValid_five :
    ∃ fragment, buildRules [.min (.int 3) true, .min (.int 5) false] =
        .ok [.min (.int 3) true, .min (.int 5) false] ∧
      Field.fragment (fun _ : ModelKey Empty => .error (.unknownModel ""))
        ⟨.scalar .int, false, [.min (.int 3) true, .min (.int 5) false]⟩ = .ok fragment ∧
      (Number.int 3).Moderate ∧ (Number.int 5).Moderate ∧
      isValid (.object ScalarKind.int.fragment) (.int 5) = true ∧
      (∀ validator ∈ [Validator.min (.int 3) true, .min (.int 5) false],
        validator.check (.int 5) = none) ∧
      ¬ isValid (.object fragment) (.int 5) = true := by
  have hchecks : ∀ validator ∈ [Validator.min (.int 3) true, .min (.int 5) false],
      validator.check (.int 5) = none := by
    decide +kernel
  exact ⟨_, rfl, rfl, by decide +kernel, by decide +kernel, rfl, hchecks, by decide +kernel⟩

end ModelSchema
