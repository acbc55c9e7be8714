import ModelSchema.Proofs.Schema.Alike

/-!
# Comparing schemas finds out whether they have the same shape

On values with distinct names the comparison answers true exactly if the values are of the same
shape.  It walks over the members of the left object only, and it pairs items with the first
partner that is left; that both are enough rests on the relation being an equivalence.

Main results:

- Theorem `Json.matchItems_iff`: pairing items one after another misses no matching.
- Theorem `Json.sameUnder_iff`: what the comparison of two values says.
- Theorem `Json.sameShape_refl_symm_trans`: the comparison is an equivalence.
-/

namespace ModelSchema
namespace Json

/-- Compares two values; the flag says that they stand under a name that gives the order of items
no meaning. -/
def sameUnder (unordered : Bool) (a b : Json) : Bool :=
  if unordered then sameUnordered a b else sameShape a b

section Cases

variable (unordered : Bool)

@[simp] theorem sameUnder_null : sameUnder unordered .null .null = true := by
  cases unordered <;> simp [sameUnder, sameShape, sameUnordered]

@[simp] theorem sameUnder_bool (a b : Bool) :
    sameUnder unordered (.bool a) (.bool b) = (a == b) := by
  cases unordered <;> simp [sameUnder, sameShape, sameUnordered]

@[simp] theorem sameUnder_number (m n : Number) :
    sameUnder unordered (.number m) (.number n) = m.same n := by
  cases unordered <;> simp [sameUnder, sameShape, sameUnordered]

@[simp] theorem sameUnder_string (s t : String) :
    sameUnder unordered (.string s) (.string t) = (s == t) := by
  cases unordered <;> simp [sameUnder, sameShape, sameUnordered]

@[simp] theorem sameUnder_array (as bs : List Json) :
    sameUnder unordered (.array as) (.array bs) =
      if unordered then as.length == bs.length && matchItems as bs else sameShapeItems as bs := by
  cases unordered <;> simp [sameUnder, sameShape, sameUnordered]

@[simp] theorem sameUnder_object (as bs : List (String × Json)) :
    sameUnder unordered (.object as) (.object bs) =
      (as.length == bs.length && sameShapeMembers as bs) := by
  cases unordered <;> simp [sameUnder, sameShape, sameUnordered]

/-- Values that compare have one type. -/
theorem valueType_eq_of_sameUnder {unordered : Bool} {a b : Json}
    (h : sameUnder unordered a b = true) : a.valueType = b.valueType := by
  cases unordered <;> cases a <;> cases b <;>
    simp [sameUnder, sameShape, sameUnordered, valueType] at h ⊢

end Cases

/-! ## Arrays -/

section Arrays

variable {as bs : List Json}

/-- Items correspond one by one if each pair of them does. -/
theorem sameShapeItems_iff
    (h : ∀ a ∈ as, ∀ b ∈ bs, sameShape a b = true ↔ Alike false a b) :
    sameShapeItems as bs = true ↔ List.Forall₂ (Alike false) as bs := by
  induction as generalizing bs with
  | nil => cases bs <;> simp [sameShapeItems]
  | cons a as ih =>
    cases bs with
    | nil => simp [sameShapeItems]
    | cons b bs =>
      have hfirst : sameShape a b = true ↔ Alike false a b :=
        h a List.mem_cons_self b List.mem_cons_self
      have hrest : sameShapeItems as bs = true ↔ List.Forall₂ (Alike false) as bs :=
        ih fun a ha b hb => h a (List.mem_cons_of_mem _ ha) b (List.mem_cons_of_mem _ hb)
      rw [sameShapeItems, Bool.and_eq_true, hfirst, hrest, List.forall₂_cons]

/-- Items are paired one after another exactly if they have a matching with some of the others. -/
theorem matchItems_iff (h : ∀ a ∈ as, ∀ b ∈ bs, sameShape a b = true ↔ Alike false a b) :
    matchItems as bs = true ↔
      ∃ taken ≤ (bs : Multiset Json), Multiset.Rel (Alike false) (as : Multiset Json) taken := by
  induction as generalizing bs with
  | nil =>
    rw [matchItems]
    exact iff_of_true rfl ⟨0, Multiset.zero_le _, .zero⟩
  | cons a as ih =>
    rw [List.forall_mem_cons] at h
    rw [matchItems, ← Multiset.cons_coe]
    cases htake : takeFirst? (fun b => sameShape a b) bs with
    | none =>
      refine iff_of_false Bool.false_ne_true ?_
      rintro ⟨taken, hle, hrel⟩
      obtain ⟨b, others, hab, -, rfl⟩ := Multiset.rel_cons_left.mp hrel
      have hb : b ∈ bs := Multiset.mem_coe.mp (Multiset.mem_of_le hle (Multiset.mem_cons_self b _))
      have hfalse := forall_of_takeFirst?_eq_none htake b hb
      rw [(h.1 b hb).mpr hab] at hfalse
      cases hfalse
    | some left =>
      obtain ⟨b, htest, hbs⟩ := exists_of_takeFirst?_eq_some htake
      have hmem : ∀ c, c = b ∨ c ∈ left → c ∈ bs := by
        intro c hc
        rw [← Multiset.mem_coe, hbs, Multiset.mem_cons, Multiset.mem_coe]
        exact hc
      have hab : Alike false a b := (h.1 b (hmem b (.inl rfl))).mp htest
      have hleft : ∀ a ∈ as, ∀ b ∈ left, sameShape a b = true ↔ Alike false a b :=
        fun a ha b hb => h.2 a ha b (hmem b (.inr hb))
      simp only [ih hleft, hbs]
      constructor
      · rintro ⟨taken, hle, hrel⟩
        exact ⟨b ::ₘ taken, Multiset.cons_le_cons b hle, .cons hab hrel⟩
      · rintro ⟨taken, hle, hrel⟩
        have hsymm : ∀ a b, Alike false a b → Alike false b a := fun _ _ => Alike.symm
        have htrans : ∀ a b c, Alike false a b → Alike false b c → Alike false a c :=
          fun _ _ _ => Alike.trans
        exact exists_rel_le_of_cons hsymm htrans hab hle hrel

/-- Arrays of one length are paired exactly if their items match. -/
theorem length_and_matchItems_iff
    (h : ∀ a ∈ as, ∀ b ∈ bs, sameShape a b = true ↔ Alike false a b) :
    (as.length == bs.length && matchItems as bs) = true ↔
      Multiset.Rel (Alike false) (as : Multiset Json) (bs : Multiset Json) := by
  rw [Bool.and_eq_true, beq_iff_eq, matchItems_iff h]
  constructor
  · rintro ⟨hlength, taken, hle, hrel⟩
    have hcard : Multiset.card (bs : Multiset Json) ≤ Multiset.card taken := by
      rw [← Multiset.card_eq_card_of_rel hrel, Multiset.coe_card, Multiset.coe_card, hlength]
    rwa [Multiset.eq_of_le_of_card_le hle hcard] at hrel
  · intro hrel
    refine ⟨?_, _, le_rfl, hrel⟩
    rw [← Multiset.coe_card, ← Multiset.coe_card, Multiset.card_eq_card_of_rel hrel]

/-- Arrays compare exactly if they are of the same shape, as far as that is so for their items. -/
theorem sameUnder_array_iff {unordered : Bool}
    (h : ∀ a ∈ as, ∀ b ∈ bs, sameShape a b = true ↔ Alike false a b) :
    sameUnder unordered (.array as) (.array bs) = true ↔
      Alike unordered (.array as) (.array bs) := by
  rw [sameUnder_array]
  cases unordered with
  | false =>
    rw [if_neg Bool.false_ne_true, sameShapeItems_iff h]
    exact ⟨.ordered, fun | .ordered hall => hall⟩
  | true =>
    rw [if_pos rfl, length_and_matchItems_iff h]
    exact ⟨.unordered, fun | .unordered hall => hall⟩

end Arrays

/-! ## Objects -/

section Objects

variable {as bs : List (String × Json)}

/-- Members are found among others exactly if each has one of its name that it compares to. -/
theorem sameShapeMembers_iff :
    sameShapeMembers as bs = true ↔
      ∀ member ∈ as, ∃ b, OrderedMap.value? bs member.1 = some b ∧
        sameUnder (isUnorderedKey member.1) member.2 b = true := by
  induction as with
  | nil => simp [sameShapeMembers]
  | cons member rest ih =>
    obtain ⟨key, a⟩ := member
    rw [sameShapeMembers, Bool.and_eq_true, ih, List.forall_mem_cons]
    refine and_congr_left' ?_
    cases OrderedMap.value? bs key with
    | none => simp
    | some b => simp [sameUnder]

/-- Objects with distinct names have the same names if the left ones are among the right ones and
there are no more of the latter. -/
theorem names_iff_of_length_eq (has : (OrderedMap.names as).Nodup)
    (hsub : OrderedMap.names as ⊆ OrderedMap.names bs) (hlength : as.length = bs.length)
    (key : String) : key ∈ OrderedMap.names as ↔ key ∈ OrderedMap.names bs := by
  have hle : (OrderedMap.names bs).length ≤ (OrderedMap.names as).length := by
    rw [OrderedMap.names, OrderedMap.names, List.length_map, List.length_map, hlength]
  exact ((List.subperm_of_subset has hsub).perm_of_length_le hle).mem_iff

/-- Objects with distinct names compare exactly if they have the same names and compare key by
key. -/
theorem length_and_sameShapeMembers_iff (has : (OrderedMap.names as).Nodup)
    (hbs : (OrderedMap.names bs).Nodup) :
    (as.length == bs.length && sameShapeMembers as bs) = true ↔
      (∀ key, key ∈ OrderedMap.names as ↔ key ∈ OrderedMap.names bs) ∧
      ∀ key a b, OrderedMap.value? as key = some a → OrderedMap.value? bs key = some b →
        sameUnder (isUnorderedKey key) a b = true := by
  rw [Bool.and_eq_true, beq_iff_eq, sameShapeMembers_iff]
  constructor
  · rintro ⟨hlength, hmembers⟩
    refine ⟨names_iff_of_length_eq has ?_ hlength, fun key a b ha hb => ?_⟩
    · intro key hkey
      obtain ⟨a, ha⟩ := OrderedMap.exists_mem_of_name_mem hkey
      obtain ⟨b, hb, -⟩ := hmembers (key, a) ha
      exact OrderedMap.name_mem_of_mem (OrderedMap.mem_of_value? hb)
    · obtain ⟨b', hb', hab⟩ := hmembers (key, a) (OrderedMap.mem_of_value? ha)
      rw [hb, Option.some.injEq] at hb'
      exact hb' ▸ hab
  · rintro ⟨hkeys, hvalues⟩
    constructor
    · have hperm : (OrderedMap.names as).Perm (OrderedMap.names bs) :=
        (List.perm_ext_iff_of_nodup has hbs).mpr hkeys
      simpa [OrderedMap.names] using hperm.length_eq
    · rintro ⟨key, a⟩ hmember
      have ha : OrderedMap.value? as key = some a := (OrderedMap.value?_eq_some_iff has).mpr hmember
      obtain ⟨b, hb⟩ := OrderedMap.exists_value?_of_name_mem
        ((hkeys key).mp (OrderedMap.name_mem_of_mem hmember))
      exact ⟨b, hb, hvalues key a b ha hb⟩

/-- Objects with distinct names compare exactly if they are of the same shape, as far as that is so
for their values. -/
theorem sameUnder_object_iff {unordered : Bool} (has : (OrderedMap.names as).Nodup)
    (hbs : (OrderedMap.names bs).Nodup)
    (h : ∀ key a b, (key, a) ∈ as → (key, b) ∈ bs →
      (sameUnder (isUnorderedKey key) a b = true ↔ Alike (isUnorderedKey key) a b)) :
    sameUnder unordered (.object as) (.object bs) = true ↔
      Alike unordered (.object as) (.object bs) := by
  have hpairs : ∀ key a b, OrderedMap.value? as key = some a → OrderedMap.value? bs key = some b →
      (sameUnder (isUnorderedKey key) a b = true ↔ Alike (isUnorderedKey key) a b) :=
    fun key a b ha hb => h key a b (OrderedMap.mem_of_value? ha) (OrderedMap.mem_of_value? hb)
  rw [sameUnder_object, length_and_sameShapeMembers_iff has hbs]
  constructor
  · rintro ⟨hkeys, hvalues⟩
    exact .object hkeys fun key a b ha hb => (hpairs key a b ha hb).mp (hvalues key a b ha hb)
  · intro halike
    cases halike with
    | object hkeys hvalues =>
      exact ⟨hkeys, fun key a b ha hb => (hpairs key a b ha hb).mpr (hvalues key a b ha hb)⟩

end Objects

/-! ## Values -/

/-- Values of different types neither compare nor have the same shape. -/
theorem sameUnder_iff_of_valueType_ne {unordered : Bool} {a b : Json}
    (h : a.valueType ≠ b.valueType) : sameUnder unordered a b = true ↔ Alike unordered a b :=
  iff_of_false (fun hsame => h (valueType_eq_of_sameUnder hsame))
    fun halike => h halike.valueType_eq

/-- Values with distinct names compare exactly if they are of the same shape. -/
theorem sameUnder_iff {unordered : Bool} {a b : Json} (ha : a.Distinct) (hb : b.Distinct) :
    sameUnder unordered a b = true ↔ Alike unordered a b := by
  induction a using Json.induction generalizing unordered b with
  | null =>
    cases b with
    | null => exact iff_of_true (sameUnder_null unordered) .null
    | _ => exact sameUnder_iff_of_valueType_ne (by simp [valueType])
  | bool value =>
    cases b with
    | bool other =>
      rw [sameUnder_bool, beq_iff_eq]
      exact ⟨fun h => h ▸ .bool value, fun | .bool _ => rfl⟩
    | _ => exact sameUnder_iff_of_valueType_ne (by simp [valueType])
  | number value =>
    cases b with
    | number other =>
      rw [sameUnder_number]
      exact ⟨.number, fun | .number h => h⟩
    | _ => exact sameUnder_iff_of_valueType_ne (by simp [valueType])
  | string value =>
    cases b with
    | string other =>
      rw [sameUnder_string, beq_iff_eq]
      exact ⟨fun h => h ▸ .string value, fun | .string _ => rfl⟩
    | _ => exact sameUnder_iff_of_valueType_ne (by simp [valueType])
  | array items ih =>
    cases b with
    | array others =>
      rw [distinct_array_iff] at ha hb
      refine sameUnder_array_iff fun item hitem other hother => ?_
      have hpair : sameUnder false item other = true ↔ Alike false item other :=
        ih item hitem (ha item hitem) (hb other hother)
      exact hpair
    | _ => exact sameUnder_iff_of_valueType_ne (by simp [valueType])
  | object members ih =>
    cases b with
    | object others =>
      rw [distinct_object_iff] at ha hb
      refine sameUnder_object_iff ha.1 hb.1 fun key a b hmember hother => ?_
      exact ih (key, a) hmember (ha.2 (key, a) hmember) (hb.2 (key, b) hother)
    | _ => exact sameUnder_iff_of_valueType_ne (by simp [valueType])

/-- Schemas with distinct names compare exactly if they are of the same shape. -/
theorem sameShape_iff {a b : Json} (ha : a.Distinct) (hb : b.Distinct) :
    sameShape a b = true ↔ Alike false a b := by
  have hunder : sameUnder false a b = true ↔ Alike false a b := sameUnder_iff ha hb
  exact hunder

/-- On values with distinct names the comparison is reflexive, symmetric and transitive. -/
theorem sameShape_refl_symm_trans {a b c : Json} (ha : a.Distinct) (hb : b.Distinct)
    (hc : c.Distinct) :
    sameShape a a = true ∧ sameShape a b = sameShape b a ∧
      (sameShape a b = true → sameShape b c = true → sameShape a c = true) := by
  refine ⟨(sameShape_iff ha ha).mpr (.refl false a), ?_, fun hab hbc => ?_⟩
  · rw [Bool.eq_iff_iff, sameShape_iff ha hb, sameShape_iff hb ha]
    exact ⟨.symm, .symm⟩
  · rw [sameShape_iff ha hb] at hab
    rw [sameShape_iff hb hc] at hbc
    exact (sameShape_iff ha hc).mpr (hab.trans hbc)

/-- A choice whose second branch requires two members. -/
def textOrPair : Json :=
  .object [("oneOf", .array [.object [("type", .string "string")],
    .object [("type", .string "object"), ("required", .array [.string "x", .string "y"])]])]

/-- The same choice with the order changed at every level. -/
def pairOrText : Json :=
  .object [("oneOf", .array
    [.object [("required", .array [.string "y", .string "x"]), ("type", .string "object")],
      .object [("type", .string "string")]])]

/-- The comparison takes the two choices to be the same, in either direction. -/
theorem sameShape_textOrPair :
    sameShape textOrPair pairOrText = true ∧ sameShape pairOrText textOrPair = true ∧
      sameShape textOrPair textOrPair = true := by
  have htext : textOrPair.Distinct := distinct_collapse textOrPair
  have hpair : pairOrText.Distinct := distinct_collapse pairOrText
  have hsame : sameShape textOrPair pairOrText = true := by cbv
  obtain ⟨-, hsymm, htrans⟩ := sameShape_refl_symm_trans htext hpair htext
  have hback : sameShape pairOrText textOrPair = true := by rw [← hsymm, hsame]
  exact ⟨hsame, hback, htrans hsame hback⟩

end Json
end ModelSchema
