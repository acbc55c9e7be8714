/-!
# Ordered maps

An ordered map is a list of named entries.  Writing under a name that is already present replaces
the value and keeps the place of the entry; writing under a new name appends an entry.
-/

namespace ModelSchema

/-- Named entries in the order in which their names were first written. -/
abbrev OrderedMap (α : Type u) := List (String × α)

namespace OrderedMap

variable {α : Type u}

/-- The names, in order. -/
def names (m : OrderedMap α) : List String := m.map Prod.fst

/-- The value of the first entry with a name. -/
def value? : OrderedMap α → String → Option α
  | [], _ => none
  | (key, value) :: rest, name => if key = name then some value else value? rest name

/-- Writes a value under a name. -/
def put : OrderedMap α → String → α → OrderedMap α
  | [], name, value => [(name, value)]
  | (key, old) :: rest, name, value =>
    if key = name then (key, value) :: rest else (key, old) :: put rest name value

/-- Writes all entries of a second map, in its order. -/
def putAll (m entries : OrderedMap α) : OrderedMap α :=
  entries.foldl (fun acc entry => put acc entry.1 entry.2) m

/-- Whether a name has an entry. -/
def has (m : OrderedMap α) (name : String) : Bool := (value? m name).isSome

@[simp] theorem names_nil : names ([] : OrderedMap α) = [] := rfl

@[simp] theorem names_cons (key : String) (value : α) (m : OrderedMap α) :
    names ((key, value) :: m) = key :: names m := rfl

@[simp] theorem value?_nil (name : String) : value? ([] : OrderedMap α) name = none := rfl

/-- A name has an entry exactly if it is among the names. -/
theorem has_iff (m : OrderedMap α) (name : String) : has m name = true ↔ name ∈ names m := by
  induction m with
  | nil => simp [has]
  | cons entry m ih =>
    obtain ⟨key, value⟩ := entry
    by_cases h : key = name
    · simp [has, value?, h]
    · have h' : name ≠ key := fun e => h e.symm
      simpa [has, value?, h, h'] using ih

/-- Writing keeps the names in place and appends a new one. -/
theorem names_put (m : OrderedMap α) (name : String) (value : α) :
    names (put m name value) = if name ∈ names m then names m else names m ++ [name] := by
  induction m with
  | nil => simp [put]
  | cons entry m ih =>
    obtain ⟨key, old⟩ := entry
    by_cases h : key = name
    · simp [put, h]
    · have h' : name ≠ key := fun e => h e.symm
      by_cases hm : name ∈ names m <;> simp [put, h, h', ih, hm]

/-- What was written under a name is found there. -/
theorem value?_put_self (m : OrderedMap α) (name : String) (value : α) :
    value? (put m name value) name = some value := by
  induction m with
  | nil => simp [put, value?]
  | cons entry m ih =>
    obtain ⟨key, old⟩ := entry
    by_cases h : key = name <;> simp [put, value?, h, ih]

/-- Writing under one name leaves the others alone. -/
theorem value?_put_of_ne (m : OrderedMap α) {name other : String} (value : α)
    (h : other ≠ name) : value? (put m name value) other = value? m other := by
  induction m with
  | nil => simp [put, value?, h.symm]
  | cons entry m ih =>
    obtain ⟨key, old⟩ := entry
    by_cases hk : key = name
    · subst hk
      simp [put, value?, h.symm]
    · simp [put, value?, hk, ih]

end OrderedMap

end ModelSchema
