import ModelSchema.OrderedMap
import ModelSchema.Proofs.Lists
import Mathlib.Data.List.Induction
import Mathlib.Data.List.Nodup

/-!
# Entries of ordered maps

Writing never repeats a name and never invents an entry.  Writing entries whose names are new and
distinct appends them as they stand, so a map that is filled in one pass lists its entries in the
order of the pass.

Main results:

- Theorem `nodup_names_putAll`: writing keeps the names of a map distinct.
- Theorem `mem_of_mem_putAll`: an entry comes from the map or from what was written.
- Theorem `putAll_of_nodup`: entries with new and distinct names are appended as they stand.
- Theorem `putAll_append`: entries with new names are written behind what is there.
- Theorem `names_putAll_eq_append`: names stand where they were first written.
- Theorem `value?_putAll`: under a name stands what was last written.
- Theorem `putAll_putAll_self`: writing the same entries a second time changes nothing.
- Theorem `putAll_swap_perm`: entries under different names may be written in either order.
- Theorem `value?_eq_some_iff`: under distinct names, looking up a name finds its entry.
- Theorem `related_iff`: maps with related values under the same names.
- Theorem `InStep.putAll`: maps with related values under the same names in the same order.
-/

namespace ModelSchema
namespace OrderedMap

variable {α : Type u}

/-! ## Names -/

/-- The name of an entry is among the names. -/
theorem name_mem_of_mem {m : OrderedMap α} {name : String} {value : α}
    (h : (name, value) ∈ m) : name ∈ names m :=
  List.mem_map_of_mem h

/-- Every name has an entry. -/
theorem exists_mem_of_name_mem {m : OrderedMap α} {name : String} (h : name ∈ names m) :
    ∃ value, (name, value) ∈ m := by
  obtain ⟨⟨key, value⟩, hmem, rfl⟩ := List.mem_map.mp h
  exact ⟨value, hmem⟩

/-- Writing one entry keeps the names distinct. -/
theorem nodup_names_put {m : OrderedMap α} (hm : (names m).Nodup) (name : String) (value : α) :
    (names (put m name value)).Nodup := by
  rw [names_put]
  split
  · exact hm
  · rename_i hnew
    simpa using List.Nodup.concat hnew hm

/-- Writing entries keeps the names distinct, whatever the names of the entries are. -/
theorem nodup_names_putAll {m : OrderedMap α} (hm : (names m).Nodup) (entries : OrderedMap α) :
    (names (putAll m entries)).Nodup := by
  induction entries generalizing m with
  | nil => exact hm
  | cons entry rest ih => exact ih (nodup_names_put hm entry.1 entry.2)

/-- Writing entries keeps the names in place and appends the new ones, each where it is first
written. -/
theorem names_putAll_eq_append (m entries : OrderedMap α) :
    names (putAll m entries) = names m ++ ((names entries).filter (· ∉ names m)).eraseDups := by
  induction entries generalizing m with
  | nil => simp [putAll]
  | cons entry rest ih =>
    obtain ⟨name, value⟩ := entry
    have hstep : names (putAll m ((name, value) :: rest)) =
        names (putAll (put m name value) rest) := rfl
    rw [hstep, ih, names_put, names_cons]
    by_cases hmem : name ∈ names m
    · rw [if_pos hmem, List.filter_cons_of_neg (by simpa using hmem)]
    · rw [if_neg hmem, List.filter_cons_of_pos (by simpa using hmem), List.eraseDups_cons,
        List.filter_filter, List.append_assoc, List.singleton_append]
      congr 3
      refine List.filter_congr fun other _ => ?_
      by_cases hother : other = name <;> simp [hother]

/-- Written names stand where they were first written, before or among the entries. -/
theorem names_putAll {m : OrderedMap α} {written : List String} (hm : names m = written.eraseDups)
    (entries : OrderedMap α) :
    names (putAll m entries) = (written ++ names entries).eraseDups := by
  rw [names_putAll_eq_append, hm, List.eraseDups_append, List.removeAll]
  simp

/-- Writing entries loses no name, and adds those of the entries. -/
theorem mem_names_putAll {m entries : OrderedMap α} {name : String} :
    name ∈ names (putAll m entries) ↔ name ∈ names m ∨ name ∈ names entries := by
  rw [names_putAll_eq_append, List.mem_append, List.mem_eraseDups, List.mem_filter]
  by_cases h : name ∈ names m <;> simp [h]

/-! ## Entries -/

/-- After writing one entry, every entry is that one or was there before. -/
theorem mem_of_mem_put {m : OrderedMap α} {name : String} {value : α} {entry : String × α}
    (h : entry ∈ put m name value) : entry ∈ m ∨ entry = (name, value) := by
  induction m with
  | nil => exact Or.inr (by simpa [put] using h)
  | cons first rest ih =>
    obtain ⟨key, old⟩ := first
    by_cases hk : key = name
    · subst hk
      rw [put, if_pos rfl, List.mem_cons] at h
      rcases h with rfl | h
      · exact Or.inr rfl
      · exact Or.inl (List.mem_cons_of_mem _ h)
    · rw [put, if_neg hk, List.mem_cons] at h
      rcases h with rfl | h
      · exact Or.inl List.mem_cons_self
      · exact (ih h).imp_left (List.mem_cons_of_mem _)

/-- After writing entries, every entry was there before or is one of them. -/
theorem mem_of_mem_putAll {m entries : OrderedMap α} {entry : String × α}
    (h : entry ∈ putAll m entries) : entry ∈ m ∨ entry ∈ entries := by
  induction entries generalizing m with
  | nil => exact Or.inl h
  | cons first rest ih =>
    rcases ih h with h | h
    · rcases mem_of_mem_put h with h | rfl
      · exact Or.inl h
      · exact Or.inr List.mem_cons_self
    · exact Or.inr (List.mem_cons_of_mem _ h)

/-- A new name goes to the end. -/
theorem put_of_notMem {m : OrderedMap α} {name : String} (h : name ∉ names m) (value : α) :
    put m name value = m ++ [(name, value)] := by
  induction m with
  | nil => rfl
  | cons first rest ih =>
    obtain ⟨key, old⟩ := first
    rw [names_cons, List.mem_cons, not_or] at h
    rw [put, if_neg (Ne.symm h.1), ih h.2, List.cons_append]

/-- Entries with new and distinct names are appended as they stand. -/
theorem putAll_of_nodup {m entries : OrderedMap α} (hnodup : (names entries).Nodup)
    (hnew : ∀ name ∈ names entries, name ∉ names m) : putAll m entries = m ++ entries := by
  induction entries generalizing m with
  | nil => exact (List.append_nil m).symm
  | cons entry rest ih =>
    rw [names_cons, List.nodup_cons] at hnodup
    rw [names_cons, List.forall_mem_cons] at hnew
    have hrest : ∀ name ∈ names rest, name ∉ names (m ++ [entry]) := by
      intro name hname hmem
      rw [names, List.map_append, List.mem_append] at hmem
      rcases hmem with hold | hself
      · exact hnew.2 name hname hold
      · rw [List.map_singleton, List.mem_singleton] at hself
        exact hnodup.1 (hself ▸ hname)
    calc
      putAll m (entry :: rest) = putAll (m ++ [entry]) rest := by
        rw [putAll, List.foldl_cons, put_of_notMem hnew.1, putAll]
      _ = m ++ [entry] ++ rest := ih hnodup.2 hrest
      _ = m ++ entry :: rest := List.append_cons m entry rest |>.symm

/-- Entries with new names are written behind the entries of a map. -/
theorem putAll_append {m entries : OrderedMap α} (hnew : ∀ name ∈ names entries, name ∉ names m)
    (other : OrderedMap α) : putAll (m ++ other) entries = m ++ putAll other entries := by
  have hput : ∀ (name : String) (value : α), name ∉ names m → ∀ other : OrderedMap α,
      put (m ++ other) name value = m ++ put other name value := by
    intro name value hname other
    clear hnew
    induction m with
    | nil => rfl
    | cons first rest ih =>
      rw [names_cons, List.mem_cons, not_or] at hname
      rw [List.cons_append, put, if_neg (Ne.symm hname.1), ih hname.2, List.cons_append]
  induction entries generalizing other with
  | nil => rfl
  | cons entry rest ih =>
    rw [names_cons, List.forall_mem_cons] at hnew
    calc
      putAll (m ++ other) (entry :: rest) = putAll (m ++ put other entry.1 entry.2) rest := by
        rw [putAll, List.foldl_cons, hput _ _ hnew.1, putAll]
      _ = m ++ putAll other (entry :: rest) := ih hnew.2 _

/-! ## Looking up -/

/-- What is found under a name is an entry of the map. -/
theorem mem_of_value? {m : OrderedMap α} {name : String} {value : α}
    (h : value? m name = some value) : (name, value) ∈ m := by
  induction m with
  | nil => cases h
  | cons first rest ih =>
    obtain ⟨key, old⟩ := first
    by_cases hk : key = name
    · subst hk
      rw [value?, if_pos rfl, Option.some.injEq] at h
      subst h
      exact List.mem_cons_self
    · rw [value?, if_neg hk] at h
      exact List.mem_cons_of_mem _ (ih h)

/-- Something is found under every name. -/
theorem exists_value?_of_name_mem {m : OrderedMap α} {name : String} (h : name ∈ names m) :
    ∃ value, value? m name = some value :=
  Option.isSome_iff_exists.mp ((has_iff m name).mpr h)

/-- Nothing is found exactly under the names that have no entry. -/
theorem value?_eq_none_iff {m : OrderedMap α} {name : String} :
    value? m name = none ↔ name ∉ names m := by
  rw [← has_iff, has, Bool.not_eq_true, Option.isSome_eq_false_iff, Option.isNone_iff_eq_none]

/-- Under distinct names, looking up a name finds its entry. -/
theorem value?_eq_some_iff {m : OrderedMap α} (hm : (names m).Nodup) {name : String}
    {value : α} : value? m name = some value ↔ (name, value) ∈ m := by
  refine ⟨mem_of_value?, fun h => ?_⟩
  induction m with
  | nil => cases h
  | cons first rest ih =>
    obtain ⟨key, old⟩ := first
    rw [names_cons, List.nodup_cons] at hm
    rcases List.mem_cons.mp h with h | h
    · cases h
      rw [value?, if_pos rfl]
    · have hne : key ≠ name := by
        rintro rfl
        exact hm.1 (name_mem_of_mem h)
      rw [value?, if_neg hne]
      exact ih hm.2 h

/-- In two maps with the same names, what is said of all entries is said of the same names. -/
theorem forall_mem_iff_of_names {β : Type v} {m : OrderedMap α} {m' : OrderedMap β}
    (hnames : ∀ name, name ∈ names m ↔ name ∈ names m') {P : String → α → Prop}
    {Q : String → β → Prop}
    (h : ∀ name a b, (name, a) ∈ m → (name, b) ∈ m' → (P name a ↔ Q name b)) :
    (∀ name a, (name, a) ∈ m → P name a) ↔ ∀ name b, (name, b) ∈ m' → Q name b := by
  constructor
  · intro hall name b hb
    obtain ⟨a, ha⟩ := exists_mem_of_name_mem ((hnames name).mpr (name_mem_of_mem hb))
    exact (h name a b ha hb).mp (hall name a ha)
  · intro hall name a ha
    obtain ⟨b, hb⟩ := exists_mem_of_name_mem ((hnames name).mp (name_mem_of_mem ha))
    exact (h name a b ha hb).mpr (hall name b hb)

/-- Under distinct names, a name has one value. -/
theorem eq_of_mem_of_mem {m : OrderedMap α} (hm : (names m).Nodup) {name : String} {a b : α}
    (ha : (name, a) ∈ m) (hb : (name, b) ∈ m) : a = b := by
  rw [← value?_eq_some_iff hm] at ha hb
  rw [ha, Option.some.injEq] at hb
  exact hb

/-- In two maps one after the other, a name is looked up in the first one first. -/
theorem value?_append (m other : OrderedMap α) (name : String) :
    value? (m ++ other) name = (value? m name).or (value? other name) := by
  induction m with
  | nil => simp
  | cons first rest ih =>
    obtain ⟨key, old⟩ := first
    by_cases hk : key = name
    · simp [value?, hk]
    · simp [value?, hk, ih]

/-- Leaving out entries of other names makes no difference to a name. -/
theorem value?_filter (keeps : String → Bool) {name : String} (h : keeps name = true)
    (m : OrderedMap α) : value? (m.filter fun entry => keeps entry.1) name = value? m name := by
  induction m with
  | nil => rfl
  | cons entry rest ih =>
    obtain ⟨key, value⟩ := entry
    by_cases hkey : key = name
    · subst hkey
      simp [h, value?]
    · by_cases hkeeps : keeps key = true
      · simp [hkeeps, value?, hkey, ih]
      · simp [hkeeps, value?, hkey, ih]

/-- Writing one entry decides what stands under its name, and nothing else. -/
theorem value?_put (m : OrderedMap α) (name : String) (value : α) (other : String) :
    value? (put m name value) other = (value? [(name, value)] other).or (value? m other) := by
  by_cases h : other = name
  · subst h
    simp [value?_put_self, value?]
  · have h' : name ≠ other := Ne.symm h
    simp [value?_put_of_ne m value h, value?, h']

/-- Under a name stands what was last written under it, or else what stood there before. -/
theorem value?_putAll (m entries : OrderedMap α) (name : String) :
    value? (putAll m entries) name = (value? entries.reverse name).or (value? m name) := by
  induction entries generalizing m with
  | nil => simp [putAll]
  | cons entry rest ih =>
    calc
      value? (putAll m (entry :: rest)) name = value? (putAll (put m entry.1 entry.2) rest) name :=
        rfl
      _ = (value? rest.reverse name).or (value? (put m entry.1 entry.2) name) := ih _
      _ = (value? (entry :: rest).reverse name).or (value? m name) := by
        rw [value?_put, List.reverse_cons, value?_append, Option.or_assoc]

/-- Of entries that are written part by part, the last part that has a name decides. -/
theorem value?_reverse_flatMap {β : Type v} (entries : β → OrderedMap α) (parts : List β)
    (name : String) :
    value? (parts.flatMap entries).reverse name =
      (parts.filterMap fun part => value? (entries part).reverse name).getLast? := by
  induction parts using List.reverseRecOn with
  | nil => rfl
  | append_singleton before last ih =>
    rw [List.flatMap_append, List.reverse_append, value?_append, ih, List.filterMap_append,
      List.getLast?_append, List.flatMap_singleton]
    cases h : value? (entries last).reverse name <;> simp [h]

/-- Under distinct names it does not matter from which end a name is looked up. -/
theorem value?_reverse {m : OrderedMap α} (hm : (names m).Nodup) (name : String) :
    value? m.reverse name = value? m name := by
  have hreverse : (names m.reverse).Nodup := by
    rw [names, List.map_reverse]
    exact List.nodup_reverse.mpr hm
  ext value
  rw [value?_eq_some_iff hm, value?_eq_some_iff hreverse, List.mem_reverse]

section Related

variable {α β : Type} {R : String → α → β → Prop} {m : OrderedMap α} {m' : OrderedMap β}

/-- Two maps have entries of the same names, with related values. -/
def Related (R : String → α → β → Prop) (m : OrderedMap α) (m' : OrderedMap β) : Prop :=
  ∀ name, Option.Rel (R name) (value? m name) (value? m' name)

theorem related_iff :
    Related R m m' ↔ (∀ name, name ∈ names m ↔ name ∈ names m') ∧
      ∀ name a b, value? m name = some a → value? m' name = some b → R name a b := by
  constructor
  · intro h
    refine ⟨fun name => ?_, fun name a b ha hb => ?_⟩
    · rw [← has_iff, ← has_iff, has, has]
      rcases optionRel_iff.mp (h name) with ⟨hnone, hnone'⟩ | ⟨a, b, ha, hb, -⟩
      · rw [hnone, hnone']
        rfl
      · rw [ha, hb]
        rfl
    · have hname := h name
      rw [ha, hb] at hname
      cases hname with
      | some hab => exact hab
  · rintro ⟨hnames, hvalues⟩ name
    by_cases hname : name ∈ names m
    · obtain ⟨a, ha⟩ := exists_value?_of_name_mem hname
      obtain ⟨b, hb⟩ := exists_value?_of_name_mem ((hnames name).mp hname)
      rw [ha, hb]
      exact .some (hvalues name a b ha hb)
    · have hname' : name ∉ names m' := fun hmem => hname ((hnames name).mpr hmem)
      rw [← value?_eq_none_iff] at hname hname'
      rw [hname, hname']
      exact .none

/-- A value of the left map has a partner in the right one. -/
theorem Related.exists_value? (h : Related R m m') {name : String} {a : α}
    (ha : value? m name = some a) : ∃ b, value? m' name = some b ∧ R name a b := by
  obtain ⟨hnames, hvalues⟩ := related_iff.mp h
  obtain ⟨b, hb⟩ :=
    exists_value?_of_name_mem ((hnames name).mp (name_mem_of_mem (mem_of_value? ha)))
  exact ⟨b, hb, hvalues name a b ha hb⟩

/-- A relation that can be turned around on values can be turned around on maps. -/
theorem Related.symm {S : String → β → α → Prop} (h : Related R m m')
    (hvalues : ∀ name a b, R name a b → S name b a) : Related S m' m := by
  rw [related_iff] at h ⊢
  refine ⟨fun name => (h.1 name).symm, fun name b a hb ha => ?_⟩
  exact hvalues name a b (h.2 name a b ha hb)

/-- Under distinct names, entries are related from either end. -/
theorem Related.reverse (h : Related R m m') (hm : (names m).Nodup) (hm' : (names m').Nodup) :
    Related R m.reverse m'.reverse := by
  intro name
  rw [value?_reverse hm, value?_reverse hm']
  exact h name

/-- Related entries are written into related maps. -/
theorem Related.putAll {entries : OrderedMap α} {entries' : OrderedMap β} (h : Related R m m')
    (hentries : Related R entries.reverse entries'.reverse) :
    Related R (putAll m entries) (putAll m' entries') := by
  intro name
  rw [value?_putAll, value?_putAll]
  rcases optionRel_iff.mp (hentries name) with ⟨hnone, hnone'⟩ | ⟨a, b, ha, hb, hab⟩
  · rw [hnone, hnone']
    exact h name
  · rw [ha, hb]
    exact .some hab

/-- Related values stand in front of related maps. -/
theorem Related.cons (h : Related R m m') {name : String} {a : α} {b : β} (hab : R name a b) :
    Related R ((name, a) :: m) ((name, b) :: m') := by
  intro other
  by_cases hname : name = other
  · subst hname
    simpa [value?] using hab
  · simpa [value?, hname] using h other

end Related

/-! ## Maps in step -/

section InStep

variable {α β : Type} {R : α → β → Prop} {m entries : OrderedMap α} {m' entries' : OrderedMap β}

/-- Two maps have the same names in the same order, with related values. -/
def InStep (R : α → β → Prop) (m : OrderedMap α) (m' : OrderedMap β) : Prop :=
  List.Forall₂ (fun entry entry' => entry.1 = entry'.1 ∧ R entry.2 entry'.2) m m'

theorem InStep.names_eq (h : InStep R m m') : names m = names m' := by
  unfold InStep at h
  induction h with
  | nil => rfl
  | cons hfirst _ ih =>
    rw [names, List.map_cons, names, List.map_cons, hfirst.1]
    exact congrArg _ ih

theorem InStep.put (h : InStep R m m') (name : String) {a : α} {b : β} (hab : R a b) :
    InStep R (put m name a) (put m' name b) := by
  unfold InStep at h
  induction h with
  | nil => exact .cons ⟨rfl, hab⟩ .nil
  | @cons entry entry' rest rest' hfirst hrest ih =>
    obtain ⟨key, old⟩ := entry
    obtain ⟨key', old'⟩ := entry'
    obtain ⟨rfl, hold⟩ := hfirst
    rw [OrderedMap.put, OrderedMap.put]
    split
    · exact .cons ⟨rfl, hab⟩ hrest
    · exact .cons ⟨rfl, hold⟩ ih

/-- Maps stay in step when entries in step are written into them. -/
theorem InStep.putAll (h : InStep R m m') (hentries : InStep R entries entries') :
    InStep R (putAll m entries) (putAll m' entries') := by
  unfold InStep at hentries
  induction hentries generalizing m m' with
  | nil => exact h
  | @cons entry entry' rest rest' hfirst _ ih =>
    have hput : InStep R (OrderedMap.put m entry.1 entry.2)
        (OrderedMap.put m' entry'.1 entry'.2) := by
      rw [← hfirst.1]
      exact h.put entry.1 hfirst.2
    exact ih hput

end InStep

end OrderedMap
end ModelSchema
