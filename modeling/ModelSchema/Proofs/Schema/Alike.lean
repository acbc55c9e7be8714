import ModelSchema.Proofs.Json.Value
import ModelSchema.Proofs.Lists
import ModelSchema.Proofs.Schema.Matching

/-!
# Values of the same shape

The relation of this module says when two schemas describe the same shape, without saying how to
find out.  Whether the order of the items of an array counts depends on the name that the array
stands under, so the relation also speaks of values under a name that gives order no meaning.

Main results:

- Theorems `Json.Alike.refl`, `Json.Alike.symm` and `Json.Alike.trans`: the relation is an
  equivalence, on all values.
-/

namespace ModelSchema
namespace Json

/-- Two values have the same shape; the flag says that they stand under a name that gives the
order of items no meaning.  Objects are related key by key, arrays place by place, or else in some
order, and all other values by equality. -/
inductive Alike : Bool → Json → Json → Prop where
  | null {unordered : Bool} : Alike unordered .null .null
  | bool {unordered : Bool} (value : Bool) : Alike unordered (.bool value) (.bool value)
  | number {unordered : Bool} {m n : Number} (h : m.same n = true) :
      Alike unordered (.number m) (.number n)
  | string {unordered : Bool} (value : String) : Alike unordered (.string value) (.string value)
  | ordered {as bs : List Json} (h : List.Forall₂ (Alike false) as bs) :
      Alike false (.array as) (.array bs)
  | unordered {as bs : List Json}
      (h : Multiset.Rel (Alike false) (as : Multiset Json) (bs : Multiset Json)) :
      Alike true (.array as) (.array bs)
  | object {unordered : Bool} {as bs : List (String × Json)}
      (hkeys : ∀ key, key ∈ OrderedMap.names as ↔ key ∈ OrderedMap.names bs)
      (hvalues : ∀ key a b, OrderedMap.value? as key = some a → OrderedMap.value? bs key = some b →
        Alike (isUnorderedKey key) a b) :
      Alike unordered (.object as) (.object bs)

namespace Alike

/-- Values of the same shape have one type. -/
theorem valueType_eq {unordered : Bool} {a b : Json} (h : Alike unordered a b) :
    a.valueType = b.valueType := by
  cases h <;> rfl

/-- Objects are of the same shape if what stands under their names is. -/
theorem object_iff {unordered : Bool} {as bs : List (String × Json)} :
    Alike unordered (.object as) (.object bs) ↔
      OrderedMap.Related (fun key => Alike (isUnorderedKey key)) as bs := by
  rw [OrderedMap.related_iff]
  constructor
  · intro h
    cases h with
    | object hkeys hvalues => exact ⟨hkeys, hvalues⟩
  · rintro ⟨hkeys, hvalues⟩
    exact .object hkeys hvalues

/-- A value has its own shape. -/
theorem refl (unordered : Bool) (v : Json) : Alike unordered v v := by
  induction v using Json.induction generalizing unordered with
  | null => exact .null
  | bool value => exact .bool value
  | number value => exact .number (Number.equivalence_same.refl value)
  | string value => exact .string value
  | array items ih =>
    cases unordered with
    | false => exact .ordered (List.forall₂_same.mpr fun item hitem => ih item hitem false)
    | true =>
      refine .unordered (Multiset.rel_refl_of_refl_on fun item hitem => ?_)
      exact ih item (Multiset.mem_coe.mp hitem) false
  | object members ih =>
    refine .object (fun key => Iff.rfl) fun key a b ha hb => ?_
    rw [ha, Option.some.injEq] at hb
    subst hb
    exact ih (key, a) (OrderedMap.mem_of_value? ha) _

/-- What has the shape of a value gives the value its own. -/
theorem symm {unordered : Bool} {a b : Json} (h : Alike unordered a b) : Alike unordered b a := by
  induction a using Json.induction generalizing unordered b with
  | null =>
    cases h
    exact .null
  | bool value =>
    cases h
    exact .bool value
  | number value =>
    cases h with
    | number hsame => exact .number (Number.equivalence_same.symm hsame)
  | string value =>
    cases h
    exact .string value
  | array items ih =>
    cases h with
    | ordered hall =>
      refine .ordered (List.Forall₂.flip ?_)
      exact forall₂_imp_of_mem hall fun a ha b _ => ih a ha
    | unordered hall =>
      refine .unordered (Multiset.rel_flip.mp ?_)
      exact hall.mono fun a ha b _ => ih a (Multiset.mem_coe.mp ha)
  | object members ih =>
    cases h with
    | object hkeys hvalues =>
      refine .object (fun key => (hkeys key).symm) fun key b a hb ha => ?_
      exact ih (key, a) (OrderedMap.mem_of_value? ha) (hvalues key a b ha hb)

/-- Two values that share their shape with a third one share it with each other. -/
theorem trans {unordered : Bool} {a b c : Json} (h : Alike unordered a b)
    (h' : Alike unordered b c) : Alike unordered a c := by
  induction a using Json.induction generalizing unordered b c with
  | null =>
    cases h
    exact h'
  | bool value =>
    cases h
    exact h'
  | number value =>
    cases h with
    | number hsame =>
      cases h' with
      | number hsame' => exact .number (Number.equivalence_same.trans hsame hsame')
  | string value =>
    cases h
    exact h'
  | array items ih =>
    cases h with
    | ordered hall =>
      cases h' with
      | ordered hall' => exact .ordered (forall₂_trans_of_mem hall hall' fun a ha b c => ih a ha)
    | unordered hall =>
      cases h' with
      | unordered hall' =>
        exact .unordered (rel_trans_of_mem hall hall' fun a ha b c => ih a (Multiset.mem_coe.mp ha))
  | object members ih =>
    cases h with
    | object hkeys hvalues =>
      cases h' with
      | object hkeys' hvalues' =>
        refine .object (fun key => (hkeys key).trans (hkeys' key)) fun key a c ha hc => ?_
        -- The key of `a` is also one of the object in the middle.
        obtain ⟨b, hb⟩ := OrderedMap.exists_value?_of_name_mem
          ((hkeys key).mp (OrderedMap.name_mem_of_mem (OrderedMap.mem_of_value? ha)))
        exact ih (key, a) (OrderedMap.mem_of_value? ha) (hvalues key a b ha hb)
          (hvalues' key b c hb hc)

end Alike
end Json
end ModelSchema
