import ModelSchema.Proofs.Schema.Comparison

/-!
# What the comparison of schemas means

Having one shape is a relation with four laws: one for objects, one for arrays in which order has
no meaning, one for other arrays, and one for all the rest.  The laws leave no choice, and the
comparison decides the relation.  It therefore does not see the order of members anywhere, nor the
order of items under a name that gives order no meaning.

Main results:

- Theorem `Json.ShapeLaws.iff_alike`: the laws determine the relation.
- Theorem `Json.Reorders.alike`: reordering keeps the shape.
- Theorem `Json.sameUnordered_iff_exists_equiv`: pairing items one after another finds a bijection
  whenever there is one.
- Theorem `Json.sameShape_iff_of_shapeLaws`: the comparison decides the relation.
-/

namespace ModelSchema
namespace Json

/-! ## The laws of one shape -/

/-- The laws of having one shape; the flag says that two values stand under a name that gives the
order of items no meaning.  Objects are related if they have the same keys and related values key
by key, arrays under such a name if a bijection between their places pairs related items, other
arrays if they are related place by place, and all other values if they are equal. -/
structure ShapeLaws (R : Bool → Json → Json → Prop) : Prop where
  object : ∀ {unordered : Bool} {as bs : List (String × Json)},
    R unordered (.object as) (.object bs) ↔
      (∀ key, key ∈ OrderedMap.names as ↔ key ∈ OrderedMap.names bs) ∧
      ∀ key a b, OrderedMap.value? as key = some a → OrderedMap.value? bs key = some b →
        R (isUnorderedKey key) a b
  unordered : ∀ {as bs : List Json}, R true (.array as) (.array bs) ↔
    ∃ e : Fin as.length ≃ Fin bs.length, ∀ i, R false as[i] bs[e i]
  ordered : ∀ {as bs : List Json}, R false (.array as) (.array bs) ↔
    as.length = bs.length ∧
      ∀ (i : Nat) (ha : i < as.length) (hb : i < bs.length), R false as[i] bs[i]
  other : ∀ {unordered : Bool} {a b : Json},
    ¬ (a.valueType = .object ∧ b.valueType = .object) →
    ¬ (a.valueType = .array ∧ b.valueType = .array) →
    (R unordered a b ↔ a.same b = true)

/-- Equal values have one type. -/
theorem valueType_eq_of_same {a b : Json} (h : a.same b = true) : a.valueType = b.valueType := by
  cases a <;> cases b <;> simp [same, valueType] at h ⊢

/-- Values of the same shape keep the laws. -/
theorem shapeLaws_alike : ShapeLaws Alike where
  object := by
    intro unordered as bs
    constructor
    · intro h
      cases h with
      | object hkeys hvalues => exact ⟨hkeys, hvalues⟩
    · rintro ⟨hkeys, hvalues⟩
      exact .object hkeys hvalues
  unordered := by
    intro as bs
    rw [← rel_iff_exists_equiv]
    constructor
    · intro h
      cases h with
      | unordered hitems => exact hitems
    · exact .unordered
  ordered := by
    intro as bs
    have hplaces : List.Forall₂ (Alike false) as bs ↔ as.length = bs.length ∧
        ∀ (i : Nat) (ha : i < as.length) (hb : i < bs.length), Alike false as[i] bs[i] := by
      simp only [List.forall₂_iff_get, List.get_eq_getElem]
    rw [← hplaces]
    constructor
    · intro h
      cases h with
      | ordered hitems => exact hitems
    · exact .ordered
  other := by
    intro unordered a b hobject harray
    by_cases htype : a.valueType = b.valueType
    · cases a <;> cases b <;> simp [valueType] at htype hobject harray
      case null => simp [same, Alike.null]
      case bool value other =>
        rw [same, beq_iff_eq]
        constructor
        · intro h
          cases h
          rfl
        · rintro rfl
          exact .bool value
      case number value other =>
        rw [same]
        constructor
        · intro h
          cases h with
          | number hsame => exact hsame
        · exact .number
      case string value other =>
        rw [same, beq_iff_eq]
        constructor
        · intro h
          cases h
          rfl
        · rintro rfl
          exact .string value
    · exact iff_of_false (fun h => htype h.valueType_eq) fun h => htype (valueType_eq_of_same h)

/-- The laws determine the relation. -/
theorem ShapeLaws.iff_alike {R : Bool → Json → Json → Prop} (hR : ShapeLaws R)
    {unordered : Bool} {a b : Json} : R unordered a b ↔ Alike unordered a b := by
  have hother : ∀ {unordered a b}, ¬ (a.valueType = .object ∧ b.valueType = .object) →
      ¬ (a.valueType = .array ∧ b.valueType = .array) →
      (R unordered a b ↔ Alike unordered a b) := by
    intro unordered a b hobject harray
    rw [hR.other hobject harray, shapeLaws_alike.other hobject harray]
  induction a using Json.induction generalizing unordered b with
  | null => exact hother (by simp [valueType]) (by simp [valueType])
  | bool value => exact hother (by simp [valueType]) (by simp [valueType])
  | number value => exact hother (by simp [valueType]) (by simp [valueType])
  | string value => exact hother (by simp [valueType]) (by simp [valueType])
  | array items ih =>
    cases b with
    | array others =>
      have hitem : ∀ (i : Nat) (hi : i < items.length) (b : Json),
          R false items[i] b ↔ Alike false items[i] b :=
        fun i hi b => ih items[i] (List.getElem_mem hi)
      cases unordered with
      | false => simp only [hR.ordered, shapeLaws_alike.ordered, hitem]
      | true =>
        rw [hR.unordered, shapeLaws_alike.unordered]
        exact exists_congr fun e => forall_congr' fun i => hitem i i.isLt _
    | _ => exact hother (by simp [valueType]) (by simp [valueType])
  | object members ih =>
    cases b with
    | object others =>
      rw [hR.object, shapeLaws_alike.object]
      refine and_congr_right fun _ => forall_congr' fun key => forall_congr' fun a =>
        forall_congr' fun b => forall_congr' fun ha => forall_congr' fun _ => ?_
      exact ih (key, a) (OrderedMap.mem_of_value? ha)
    | _ => exact hother (by simp [valueType]) (by simp [valueType])

/-! ## Reordering -/

/-- One change of order: of the members of an object, or of the items of an array under a name that
gives their order no meaning, at any depth.  The flag says that the whole value stands under such a
name. -/
inductive Reorders : Bool → Json → Json → Prop where
  | members {unordered : Bool} {as bs : List (String × Json)} (h : as.Perm bs) :
      Reorders unordered (.object as) (.object bs)
  | items {as bs : List Json} (h : as.Perm bs) : Reorders true (.array as) (.array bs)
  | member {unordered : Bool} {before after : List (String × Json)} {key : String} {a b : Json}
      (h : Reorders (isUnorderedKey key) a b) :
      Reorders unordered (.object (before ++ (key, a) :: after))
        (.object (before ++ (key, b) :: after))
  | item {unordered : Bool} {before after : List Json} {a b : Json} (h : Reorders false a b) :
      Reorders unordered (.array (before ++ a :: after)) (.array (before ++ b :: after))

namespace Reorders

variable {unordered : Bool} {a b : Json}

/-- A reordered value has distinct names if the value had. -/
theorem distinct (h : Reorders unordered a b) (ha : a.Distinct) : b.Distinct := by
  induction h with
  | members hperm =>
    rw [distinct_object_iff] at ha ⊢
    exact ⟨(hperm.map Prod.fst).nodup_iff.mp ha.1, fun member hmember =>
      ha.2 member (hperm.mem_iff.mpr hmember)⟩
  | items hperm =>
    rw [distinct_array_iff] at ha ⊢
    exact fun item hitem => ha item (hperm.mem_iff.mpr hitem)
  | member _ ih =>
    rw [distinct_object_iff] at ha ⊢
    simp only [OrderedMap.names, List.map_append, List.map_cons, List.forall_mem_append,
      List.forall_mem_cons] at ha ⊢
    exact ⟨ha.1, ha.2.1, ih ha.2.2.1, ha.2.2.2⟩
  | item _ ih =>
    rw [distinct_array_iff] at ha ⊢
    simp only [List.forall_mem_append, List.forall_mem_cons] at ha ⊢
    exact ⟨ha.1, ih ha.2.1, ha.2.2⟩

/-- Reordering keeps the shape. -/
theorem alike (h : Reorders unordered a b) (ha : a.Distinct) : Alike unordered a b := by
  induction h with
  | @members unordered as bs hperm =>
    have hstep : Reorders unordered (.object as) (.object bs) := .members hperm
    have hb : (object bs).Distinct := hstep.distinct ha
    rw [distinct_object_iff] at ha hb
    refine .object (fun key => (hperm.map Prod.fst).mem_iff) fun key x y hx hy => ?_
    -- Under distinct names, what is found does not depend on the order.
    rw [OrderedMap.value?_eq_some_iff ha.1, hperm.mem_iff,
      ← OrderedMap.value?_eq_some_iff hb.1, hy, Option.some.injEq] at hx
    exact hx ▸ .refl _ y
  | items hperm =>
    rw [shapeLaws_alike.unordered, ← rel_iff_exists_equiv, Multiset.coe_eq_coe.mpr hperm]
    exact Multiset.rel_refl_of_refl_on fun item _ => .refl false item
  | @member unordered before after key x y hinner ih =>
    have hstep : Reorders unordered (.object (before ++ (key, x) :: after))
        (.object (before ++ (key, y) :: after)) := .member hinner
    have hb := hstep.distinct ha
    rw [distinct_object_iff] at ha hb
    have hx : (key, x) ∈ before ++ (key, x) :: after := by simp
    have hy : (key, y) ∈ before ++ (key, y) :: after := by simp
    refine .object (fun other => by simp [OrderedMap.names]) fun other v w hv hw => ?_
    have hvmem := OrderedMap.mem_of_value? hv
    have hwmem := OrderedMap.mem_of_value? hw
    by_cases hother : other = key
    · subst hother
      rw [OrderedMap.eq_of_mem_of_mem ha.1 hvmem hx, OrderedMap.eq_of_mem_of_mem hb.1 hwmem hy]
      exact ih (ha.2 _ hx)
    · -- The members of other names stand in both objects.
      have hboth : (other, v) ∈ before ++ (key, y) :: after := by simpa [hother] using hvmem
      rw [OrderedMap.eq_of_mem_of_mem hb.1 hboth hwmem]
      exact .refl _ w
  | @item unordered before after x y hinner ih =>
    rw [distinct_array_iff, List.forall_mem_append, List.forall_mem_cons] at ha
    have hpairs : List.Forall₂ (Alike false) (before ++ x :: after) (before ++ y :: after) := by
      refine List.rel_append (List.forall₂_same.mpr fun item _ => .refl false item) ?_
      exact .cons (ih ha.2.1) (List.forall₂_same.mpr fun item _ => .refl false item)
    cases unordered with
    | false => exact .ordered hpairs
    | true => exact .unordered (rel_iff_exists_perm.mpr ⟨_, .refl _, hpairs⟩)

/-- Any number of changes of order keep the shape and leave names distinct. -/
theorem distinct_and_alike_of_reflTransGen
    (h : Relation.ReflTransGen (Reorders unordered) a b) (ha : a.Distinct) :
    b.Distinct ∧ Alike unordered a b := by
  induction h with
  | refl => exact ⟨ha, .refl unordered a⟩
  | tail _ hstep ih => exact ⟨hstep.distinct ih.1, ih.2.trans (hstep.alike ih.1)⟩

end Reorders

/-! ## What the comparison decides -/

/-- Pairing the items of two arrays one after another, each with the first partner that is left,
succeeds whenever a bijection between their places pairs them. -/
theorem sameUnordered_iff_exists_equiv {as bs : List Json} (has : ∀ a ∈ as, a.Distinct)
    (hbs : ∀ b ∈ bs, b.Distinct) :
    sameUnordered (.array as) (.array bs) = true ↔
      ∃ e : Fin as.length ≃ Fin bs.length, ∀ i, sameShape as[i] bs[e i] = true := by
  have hunder :
      sameUnder true (.array as) (.array bs) = true ↔ Alike true (.array as) (.array bs) :=
    sameUnder_iff (.array has) (.array hbs)
  rw [sameUnder, if_pos rfl] at hunder
  rw [hunder, shapeLaws_alike.unordered]
  refine exists_congr fun e => forall_congr' fun i => ?_
  exact (sameShape_iff (has _ (List.getElem_mem _)) (hbs _ (List.getElem_mem _))).symm

/-- The comparison decides the relation that the laws determine, misses no assignment of the items
of two arrays, and answers the same however members, and items under names that give their order
no meaning, are reordered on either side. -/
theorem sameShape_iff_of_shapeLaws {R : Bool → Json → Json → Prop} (hR : ShapeLaws R)
    {a b : Json} (ha : a.Distinct) (hb : b.Distinct) :
    (sameShape a b = true ↔ R false a b) ∧
      (∀ as bs, (∀ a ∈ as, a.Distinct) → (∀ b ∈ bs, b.Distinct) →
        (sameUnordered (.array as) (.array bs) = true ↔
          ∃ e : Fin as.length ≃ Fin bs.length, ∀ i, sameShape as[i] bs[e i] = true)) ∧
      ∀ a' b', Relation.ReflTransGen (Reorders false) a a' →
        Relation.ReflTransGen (Reorders false) b b' → sameShape a' b' = sameShape a b := by
  refine ⟨?_, fun as bs has hbs => sameUnordered_iff_exists_equiv has hbs, ?_⟩
  · rw [sameShape_iff ha hb, hR.iff_alike]
  · intro a' b' haa' hbb'
    obtain ⟨ha', hasame⟩ := Reorders.distinct_and_alike_of_reflTransGen haa' ha
    obtain ⟨hb', hbsame⟩ := Reorders.distinct_and_alike_of_reflTransGen hbb' hb
    rw [Bool.eq_iff_iff, sameShape_iff ha' hb', sameShape_iff ha hb]
    exact ⟨fun h => hasame.trans (h.trans hbsame.symm), fun h => hasame.symm.trans (h.trans hbsame)⟩

/-- The choice with the order of its branches changed, then that of the names that its branch
requires, and then that of the members of the branch. -/
theorem reorders_textOrPair :
    Relation.ReflTransGen (Reorders false) textOrPair pairOrText := by
  have hbranches : Reorders false
      (.object ([] ++ ("oneOf", .array [.object [("type", .string "string")],
        .object [("type", .string "object"), ("required", .array [.string "x", .string "y"])]])
        :: []))
      (.object ([] ++ ("oneOf", .array
        ([] ++ .object ([("type", .string "object")] ++
          ("required", .array [.string "x", .string "y"]) :: []) ::
          [.object [("type", .string "string")]])) :: [])) :=
    .member (.items (.swap _ _ _))
  have hnames : Reorders false
      (.object ([] ++ ("oneOf", .array
        ([] ++ .object ([("type", .string "object")] ++
          ("required", .array [.string "x", .string "y"]) :: []) ::
          [.object [("type", .string "string")]])) :: []))
      (.object ([] ++ ("oneOf", .array
        ([] ++ .object ([("type", .string "object")] ++
          ("required", .array [.string "y", .string "x"]) :: []) ::
          [.object [("type", .string "string")]])) :: [])) :=
    .member (.item (.member (.items (.swap _ _ _))))
  have hmembers : Reorders false
      (.object ([] ++ ("oneOf", .array
        ([] ++ .object ([("type", .string "object")] ++
          ("required", .array [.string "y", .string "x"]) :: []) ::
          [.object [("type", .string "string")]])) :: [])) pairOrText :=
    .member (.item (.members (.swap _ _ _)))
  exact ((Relation.ReflTransGen.single hbranches).tail hnames).tail hmembers

/-- A choice and a reordering of it have one shape, and compare in the same way. -/
theorem alike_textOrPair :
    ShapeLaws Alike ∧ Alike false textOrPair pairOrText ∧
      sameShape pairOrText textOrPair = sameShape textOrPair textOrPair := by
  have htext : textOrPair.Distinct := distinct_collapse textOrPair
  have hpair : pairOrText.Distinct := distinct_collapse pairOrText
  have hsame : sameShape textOrPair pairOrText = true := by cbv
  obtain ⟨hdecides, -, -⟩ := sameShape_iff_of_shapeLaws shapeLaws_alike htext hpair
  obtain ⟨-, -, hreorders⟩ := sameShape_iff_of_shapeLaws shapeLaws_alike htext htext
  exact ⟨shapeLaws_alike, hdecides.mp hsame,
    hreorders pairOrText textOrPair reorders_textOrPair .refl⟩

end Json
end ModelSchema
