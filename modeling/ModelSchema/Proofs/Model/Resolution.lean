import Mathlib.Data.List.Induction
import ModelSchema.Proofs.Model.Registry

/-!
# What a declaration resolves to

Resolving goes over the fields three times: the parents are merged, the own fields are checked, and
then they are written over what was inherited.  Put together, the outcome is the first recorded
error, or else the fault of the first own field that has one, or else a registry in which every name
stands where it first occurs and has the form in which it occurs last.

Main results:

- Theorem `Declaration.checkOwn_eq_error_iff`: the check stops at the first own field at fault.
- Theorem `Declaration.names_inherited`: inherited names stand where they first occur.
- Theorem `Declaration.value?_inherited`: of several parents with a name, the last one counts.
- Theorem `Declaration.build_cases`: the outcome of every declaration.
-/

namespace ModelSchema

variable {τ : Type}

namespace Declaration

/-! ## Faults of own fields -/

/-- The fault of the own field at a place: its name was declared before, or else its target has no
candidate.  `seen` are names that were declared before all own fields. -/
inductive FaultAt (model : String) (seen : List String) (own : List (String × Field τ)) (i : Nat) :
    ModelError → Prop where
  | duplicate {name : String} {f : Field τ} (hfield : own[i]? = some (name, f))
      (hseen : name ∈ seen ++ (own.take i).map Prod.fst) :
      FaultAt model seen own i (.duplicateField model name)
  | empty {name : String} {f : Field τ} {target : Target τ} (hfield : own[i]? = some (name, f))
      (hnew : name ∉ seen ++ (own.take i).map Prod.fst) (htarget : f.shape.target? = some target)
      (hnone : target.toList = []) : FaultAt model seen own i (.emptyCandidates name)

/-- An own field has the first fault: it has one, and no own field before it has any. -/
def FirstFault (model : String) (seen : List String) (own : List (String × Field τ))
    (error : ModelError) : Prop :=
  ∃ i, FaultAt model seen own i error ∧ ∀ j < i, ∀ other, ¬ FaultAt model seen own j other

section Faults

variable {model : String} {seen : List String} {own : List (String × Field τ)} {error : ModelError}

/-- A shape lacks candidates if it has a target without any. -/
theorem lacksCandidates_iff {shape : Shape τ} :
    shape.lacksCandidates = true ↔ ∃ target, shape.target? = some target ∧ target.toList = [] := by
  simp [Shape.lacksCandidates, Target.isEmpty, Option.any_eq_true]

/-- No field, no fault. -/
theorem not_faultAt_nil (i : Nat) :
    ¬ FaultAt model seen ([] : List (String × Field τ)) i error := by
  rintro (⟨hfield, -⟩ | ⟨hfield, -⟩)
  · simp at hfield
  · simp at hfield

/-- The fault of the first own field. -/
theorem faultAt_zero_iff {name : String} {f : Field τ} :
    FaultAt model seen ((name, f) :: own) 0 error ↔
      name ∈ seen ∧ error = .duplicateField model name ∨
        name ∉ seen ∧ f.shape.lacksCandidates = true ∧ error = .emptyCandidates name := by
  rw [lacksCandidates_iff]
  constructor
  · rintro (⟨hfield, hseen⟩ | ⟨hfield, hnew, htarget, hnone⟩)
    · cases hfield
      exact .inl ⟨by simpa using hseen, rfl⟩
    · cases hfield
      exact .inr ⟨by simpa using hnew, ⟨_, htarget, hnone⟩, rfl⟩
  · rintro (⟨hseen, rfl⟩ | ⟨hnew, ⟨target, htarget, hnone⟩, rfl⟩)
    · exact .duplicate rfl (by simpa using hseen)
    · exact .empty rfl (by simpa using hnew) htarget hnone

/-- The fault of a later own field is one below the name of the first. -/
theorem faultAt_succ_iff {name : String} {f : Field τ} {i : Nat} :
    FaultAt model seen ((name, f) :: own) (i + 1) error ↔
      FaultAt model (name :: seen) own i error := by
  have hnames : ∀ other, other ∈ seen ++ (((name, f) :: own).take (i + 1)).map Prod.fst ↔
      other ∈ name :: seen ++ (own.take i).map Prod.fst := by
    intro other
    simp only [List.take_succ_cons, List.map_cons, List.mem_append, List.mem_cons]
    exact or_left_comm.trans or_assoc.symm
  constructor
  · rintro (⟨hfield, hseen⟩ | ⟨hfield, hnew, htarget, hnone⟩)
    · exact .duplicate hfield ((hnames _).mp hseen)
    · exact .empty hfield (fun h => hnew ((hnames _).mpr h)) htarget hnone
  · rintro (⟨hfield, hseen⟩ | ⟨hfield, hnew, htarget, hnone⟩)
    · exact .duplicate hfield ((hnames _).mpr hseen)
    · exact .empty hfield (fun h => hnew ((hnames _).mp h)) htarget hnone

/-- The first fault is that of the first own field, or else the first below its name. -/
theorem firstFault_cons_iff {name : String} {f : Field τ} :
    FirstFault model seen ((name, f) :: own) error ↔
      FaultAt model seen ((name, f) :: own) 0 error ∨
        (∀ other, ¬ FaultAt model seen ((name, f) :: own) 0 other) ∧
          FirstFault model (name :: seen) own error := by
  constructor
  · rintro ⟨i, hfault, hfirst⟩
    cases i with
    | zero => exact .inl hfault
    | succ i =>
      refine .inr ⟨hfirst 0 i.succ_pos, i, faultAt_succ_iff.mp hfault, fun j hj other h => ?_⟩
      exact hfirst (j + 1) (Nat.succ_lt_succ hj) other (faultAt_succ_iff.mpr h)
  · rintro (hfault | ⟨hnone, i, hfault, hfirst⟩)
    · exact ⟨0, hfault, fun j hj => absurd hj j.not_lt_zero⟩
    · refine ⟨i + 1, faultAt_succ_iff.mpr hfault, fun j hj other h => ?_⟩
      cases j with
      | zero => exact hnone other h
      | succ j => exact hfirst j (Nat.lt_of_succ_lt_succ hj) other (faultAt_succ_iff.mp h)

/-- The check of the own fields stops with the first fault. -/
theorem checkOwn_eq_error_iff :
    checkOwn model seen own = .error error ↔ FirstFault model seen own error := by
  induction own generalizing seen with
  | nil =>
    constructor
    · intro h
      cases h
    · rintro ⟨i, hfault, -⟩
      exact absurd hfault (not_faultAt_nil i)
  | cons entry rest ih =>
    obtain ⟨name, f⟩ := entry
    rw [firstFault_cons_iff, ← ih, checkOwn]
    simp only [faultAt_zero_iff]
    by_cases hseen : name ∈ seen
    · simp [hseen, eq_comm (a := error)]
    · by_cases hlacks : f.shape.lacksCandidates = true
      · simp [hseen, hlacks, eq_comm (a := error)]
      · simp [hseen, hlacks]

/-- The check accepts own fields without a fault. -/
theorem checkOwn_eq_ok_of_forall_not_faultAt
    (h : ∀ i other, ¬ FaultAt model seen own i other) : checkOwn model seen own = .ok () := by
  cases hcheck : checkOwn model seen own with
  | ok _ => rfl
  | error error =>
    obtain ⟨i, hfault, -⟩ := checkOwn_eq_error_iff.mp hcheck
    exact absurd hfault (h i error)

end Faults

/-! ## Inherited fields -/

section Inherited

variable {d : Declaration τ}

/-- Merging one more parent writes its fields over those of the others. -/
theorem inherited_concat (parents : List (Registry τ)) (last : Registry τ)
    (own : List (String × Field τ)) (error : Option ModelError) :
    Declaration.inherited ⟨parents ++ [last], own, error⟩ =
      OrderedMap.putAll (Declaration.inherited ⟨parents, own, error⟩) last.fields :=
  List.foldl_concat ..

/-- Inherited names stand where they first occur in the parents. -/
theorem names_inherited (d : Declaration τ) :
    OrderedMap.names d.inherited = (d.parents.flatMap (·.fieldNames)).eraseDups := by
  obtain ⟨parents, own, error⟩ := d
  induction parents using List.reverseRecOn with
  | nil => rfl
  | append_singleton parents last ih =>
    rw [inherited_concat, OrderedMap.names_putAll ih, List.flatMap_append, List.flatMap_singleton]
    rfl

/-- Under an inherited name stands the field of the last parent that has the name. -/
theorem value?_inherited (hparents : ∀ parent ∈ d.parents, parent.fieldNames.Nodup)
    (name : String) :
    OrderedMap.value? d.inherited name = d.parents.reverse.findSome? (·.get? name) := by
  obtain ⟨parents, own, error⟩ := d
  induction parents using List.reverseRecOn with
  | nil => rfl
  | append_singleton parents last ih =>
    rw [List.forall_mem_append, List.forall_mem_singleton] at hparents
    rw [inherited_concat, OrderedMap.value?_putAll, OrderedMap.value?_reverse hparents.2,
      ih hparents.1, List.reverse_concat, List.findSome?_cons]
    unfold Registry.get?
    cases OrderedMap.value? last.fields name <;> rfl

end Inherited

/-! ## Outcomes -/

/-- The registry with a name and a key that a declaration without a fault resolves to: names stand
where they first occur, in the parents and then in the own fields, and each has the form of the own
field, or else that of the last parent with the name. -/
structure Resolved (d : Declaration τ) (name : String) (key : ModelKey τ) (r : Registry τ) :
    Prop where
  name_eq : r.name = name
  key_eq : r.key = key
  fieldNames : r.fieldNames = (d.parents.flatMap (·.fieldNames) ++ d.own.map Prod.fst).eraseDups
  get? : ∀ field, r.get? field =
    (OrderedMap.value? d.own field).or (d.parents.reverse.findSome? (·.get? field))

/-- A registry that a declaration resolves to is as the declaration says. -/
theorem resolved_of_build {d : Declaration τ} {name : String} {key : ModelKey τ} {r : Registry τ}
    (hparents : ∀ parent ∈ d.parents, parent.fieldNames.Nodup) (h : d.build name key = .ok r) :
    d.Resolved name key r := by
  obtain ⟨-, hnodup, -, rfl⟩ := build_eq_ok_iff.mp h
  refine ⟨rfl, rfl, OrderedMap.names_putAll d.names_inherited d.own, fun field => ?_⟩
  rw [Registry.get?, OrderedMap.value?_putAll, OrderedMap.value?_reverse hnodup,
    value?_inherited hparents]

/-- Of the errors that are recorded, the first one counts. -/
theorem error_foldl_fail (d : Declaration τ) (errors : List ModelError) :
    (errors.foldl Declaration.fail d).error = d.error.or errors.head? := by
  induction errors generalizing d with
  | nil => simp
  | cons error rest ih =>
    rw [List.foldl_cons, ih, Declaration.fail]
    cases d.error <;> rfl

/-- A declaration is refused with the recorded error, or else with the first fault. -/
theorem build_eq_error_iff {d : Declaration τ} {name : String} {key : ModelKey τ}
    {error : ModelError} :
    d.build name key = .error error ↔
      d.error = some error ∨ d.error = none ∧ FirstFault name [] d.own error := by
  rw [← checkOwn_eq_error_iff, build]
  cases d.error with
  | some recorded => simp
  | none => cases checkOwn name [] d.own <;> simp

/-- The outcome of a declaration over parents that name no field twice: if errors were recorded, the
first of them; otherwise, if own fields are at fault, the fault of the first of these; otherwise a
registry, which lists each name where it first occurs and has the own field under it, or else the
field of the last parent with the name. -/
theorem build_cases (d : Declaration τ)
    (hparents : ∀ parent ∈ d.parents, parent.fieldNames.Nodup) (name : String)
    (key : ModelKey τ) :
    (∀ error, d.build name key = .error error ↔
      d.error = some error ∨ d.error = none ∧ FirstFault name [] d.own error) ∧
    (∀ first later, d.error = none →
      ((first :: later).foldl Declaration.fail d).build name key = .error first) ∧
    (d.error = none → (∀ i error, ¬ FaultAt name [] d.own i error) →
      ∃ r, d.build name key = .ok r ∧ d.Resolved name key r) := by
  refine ⟨fun error => build_eq_error_iff, fun first later hnone => ?_, fun hnone hsound => ?_⟩
  · refine build_eq_error_iff.mpr (.inl ?_)
    rw [error_foldl_fail, hnone]
    rfl
  · have hbuild : d.build name key =
        .ok ⟨name, key, OrderedMap.putAll d.inherited d.own⟩ := by
      rw [build, hnone, checkOwn_eq_ok_of_forall_not_faultAt hsound]
    exact ⟨_, hbuild, resolved_of_build hparents hbuild⟩

/-- A boat has a name and a length. -/
def boat : Registry Empty :=
  ⟨"boat", .named "boat",
    [("name", ⟨.scalar .string, true, []⟩), ("length", ⟨.scalar .float, false, []⟩)]⟩

/-- A house has a number of rooms, and a number in place of a name. -/
def house : Registry Empty :=
  ⟨"house", .named "house",
    [("rooms", ⟨.scalar .int, false, []⟩), ("name", ⟨.scalar .int, false, []⟩)]⟩

/-- A houseboat is a boat and a house, with a berth and with rooms that have names. -/
def houseboat : Declaration Empty :=
  ⟨[boat, house],
    [("berth", ⟨.scalar .string, false, []⟩),
      ("rooms", ⟨.list (.single (.primitive .string)), true, []⟩)],
    none⟩

/-- A houseboat with a second berth, for which there is no candidate. -/
def twoBerths : Declaration Empty :=
  houseboat.field "berth" ⟨.embedded (.candidates []), false, []⟩

/-- A houseboat has the name of a house in the place of that of a boat, and rooms of its own in the
place of those of a house.  A second berth is refused for its name, not for its candidates. -/
theorem build_houseboat :
    (∃ r, houseboat.build "houseboat" (.named "houseboat") = .ok r ∧
      r.fieldNames = ["name", "length", "rooms", "berth"] ∧
      r.get? "name" = some ⟨.scalar .int, false, []⟩ ∧
      r.get? "length" = some ⟨.scalar .float, false, []⟩ ∧
      r.get? "rooms" = some ⟨.list (.single (.primitive .string)), true, []⟩) ∧
    twoBerths.build "houseboat" (.named "houseboat") =
      .error (.duplicateField "houseboat" "berth") := by
  constructor
  · have hsound : ∀ i error, ¬ FaultAt "houseboat" [] houseboat.own i error := by
      intro i error
      match i with
      | 0 => simp [houseboat, faultAt_zero_iff, Shape.lacksCandidates, Shape.target?]
      | 1 =>
        simp [houseboat, faultAt_succ_iff, faultAt_zero_iff, Shape.lacksCandidates, Shape.target?,
          Target.isEmpty, Target.toList]
      | i + 2 => simp [houseboat, faultAt_succ_iff, not_faultAt_nil]
    obtain ⟨r, hbuild, hresolved⟩ :=
      (build_cases houseboat (by decide) "houseboat" (.named "houseboat")).2.2 rfl hsound
    refine ⟨r, hbuild, hresolved.fieldNames.trans (by decide), ?_, ?_, ?_⟩
    all_goals rw [hresolved.get?]; rfl
  · refine ((build_cases twoBerths (by decide) "houseboat" (.named "houseboat")).1 _).mpr
      (.inr ⟨rfl, 2, .duplicate rfl (by decide), fun j hj other => ?_⟩)
    match j with
    | 0 =>
      simp [twoBerths, houseboat, field, faultAt_zero_iff, Shape.lacksCandidates, Shape.target?]
    | 1 =>
      simp [twoBerths, houseboat, field, faultAt_succ_iff, faultAt_zero_iff, Shape.lacksCandidates,
        Shape.target?, Target.isEmpty, Target.toList]
    | j + 2 => omega

end Declaration
end ModelSchema
