import ModelSchema.Json.Basic
import ModelSchema.Proofs.OrderedMap

/-!
# Values by induction

What is proved of a value follows from what is proved of its items or of the values of its members.
A value has distinct names if no object in it, at any depth, has two members of one name; these
are the values that an object of JSON can stand for.

Main results:

- Theorem `Number.equivalence_same`: equality of numbers is an equivalence.
- Theorem `Json.induction`: induction on values.
- Theorem `Json.distinct_collapse`: reading leaves only values with distinct names.
-/

namespace ModelSchema

/-! ## Numbers -/

namespace Number

/-- What there is to a number as a JSON value: an integer, or the exact value of a double. -/
def content : Number → Int ⊕ Int
  | .int n => .inl n
  | .float x => .inr x.units

/-- Equal numbers are those of the same content. -/
theorem same_iff {m n : Number} : m.same n = true ↔ m.content = n.content := by
  cases m with
  | int i => cases n <;> simp [same, content]
  | float x => cases n <;> simp [same, content]

/-- Equal numbers count the same units. -/
theorem units_eq_of_same {m n : Number} (h : m.same n = true) : m.units = n.units := by
  cases m <;> cases n <;> simp_all [same, units]

/-- Equality of numbers is an equivalence. -/
theorem equivalence_same : Equivalence fun m n : Number => m.same n = true := by
  simp only [same_iff]
  exact ⟨fun m => rfl, Eq.symm, Eq.trans⟩

end Number

namespace Json

/-! ## Induction -/

/-- Induction on values: items and members come before the array or the object they are in. -/
@[elab_as_elim]
theorem induction {motive : Json → Prop} (null : motive .null)
    (bool : ∀ value, motive (.bool value)) (number : ∀ value, motive (.number value))
    (string : ∀ value, motive (.string value))
    (array : ∀ items, (∀ item ∈ items, motive item) → motive (.array items))
    (object : ∀ members, (∀ member ∈ members, motive member.2) → motive (.object members)) :
    ∀ v, motive v
  | .null => null
  | .bool value => bool value
  | .number value => number value
  | .string value => string value
  | .array items => array items fun item hitem =>
    have : sizeOf item < sizeOf items := List.sizeOf_lt_of_mem hitem
    induction null bool number string array object item
  | .object members => object members fun member hmember =>
    have : sizeOf member < sizeOf members := List.sizeOf_lt_of_mem hmember
    have : sizeOf member.2 < sizeOf member := by
      rcases member with ⟨name, value⟩
      simp only [Prod.mk.sizeOf_spec]
      omega
    induction null bool number string array object member.2

/-! ## Distinct names -/

/-- No object has two members of one name, at any depth. -/
inductive Distinct : Json → Prop where
  | null : Distinct .null
  | bool (value : Bool) : Distinct (.bool value)
  | number (value : Number) : Distinct (.number value)
  | string (value : String) : Distinct (.string value)
  | array {items : List Json} (hitems : ∀ item ∈ items, item.Distinct) : Distinct (.array items)
  | object {members : List (String × Json)} (hnames : (OrderedMap.names members).Nodup)
      (hmembers : ∀ member ∈ members, member.2.Distinct) : Distinct (.object members)

theorem distinct_array_iff {items : List Json} :
    (array items).Distinct ↔ ∀ item ∈ items, item.Distinct := by
  constructor
  · intro h
    cases h with
    | array hitems => exact hitems
  · exact .array

theorem distinct_object_iff {members : List (String × Json)} :
    (object members).Distinct ↔
      (OrderedMap.names members).Nodup ∧ ∀ member ∈ members, member.2.Distinct := by
  constructor
  · intro h
    cases h with
    | object hnames hmembers => exact ⟨hnames, hmembers⟩
  · rintro ⟨hnames, hmembers⟩
    exact .object hnames hmembers

/-- Written one after another, collapsed members have distinct names and values with distinct
names. -/
theorem distinct_collapseMembers {written members : List (String × Json)}
    (hwritten : (object written).Distinct)
    (hmembers : ∀ member ∈ members, (collapse member.2).Distinct) :
    (object (collapseMembers written members)).Distinct := by
  induction members generalizing written with
  | nil =>
    rw [collapseMembers]
    exact hwritten
  | cons member rest ih =>
    obtain ⟨name, value⟩ := member
    rw [List.forall_mem_cons] at hmembers
    rw [distinct_object_iff] at hwritten
    rw [collapseMembers]
    refine ih (.object (OrderedMap.nodup_names_put hwritten.1 name _) ?_) hmembers.2
    intro entry hentry
    rcases OrderedMap.mem_of_mem_put hentry with hold | rfl
    · exact hwritten.2 entry hold
    · exact hmembers.1

/-- The items of a collapsed array are the collapsed items. -/
theorem collapseItems_eq_map (items : List Json) : collapseItems items = items.map collapse := by
  induction items with
  | nil => simp [collapseItems]
  | cons item rest ih => rw [collapseItems, ih, List.map_cons]

/-- A value in which repeated names were collapsed has distinct names. -/
theorem distinct_collapse (v : Json) : (collapse v).Distinct := by
  induction v using Json.induction with
  | null => exact .null
  | bool value => exact .bool value
  | number value => exact .number value
  | string value => exact .string value
  | array items ih =>
    rw [collapse, collapseItems_eq_map]
    refine .array fun item hitem => ?_
    obtain ⟨original, horiginal, rfl⟩ := List.mem_map.mp hitem
    exact ih original horiginal
  | object members ih =>
    rw [collapse]
    exact distinct_collapseMembers (.object (by simp) (by simp)) ih

end Json
end ModelSchema
