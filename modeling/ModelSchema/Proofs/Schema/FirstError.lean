import ModelSchema.Proofs.Schema.Embedding

/-!
# The error that a compilation meets first

Below a model that is expanded stand the models that it refers to, and below these their own.  A
position in this tree is the list of the places, each among the references of its model, that lead
there.  Depth first, positions come in lexicographic order.  Several errors can stand in a tree; the
compiler says the first of them.  In the catalog of a manifest that one names a reference that leads
nowhere, or the models of a cycle.

Main results:

- Theorem `Scope.expand_eq_error_iff`: a model is refused with the first error of its tree.
- Theorem `Catalog.genuine_of_meets`: every error of the tree is about models within reach.
- Theorem `Catalog.compileNamed_eq_error_iff`: the error of a model of a catalog.
-/

namespace ModelSchema

variable {τ : Type} [DecidableEq τ]

namespace Scope

/-! ## Errors and their positions -/

/-- The errors of the tree of a model below a path, each at a position: a model that stands on the
path closes a cycle; a reference may be without a model, and otherwise the errors of its model
follow. -/
inductive Meets (scope : Scope τ) :
    List (Registry τ) → Registry τ → List Nat → SchemaError → Prop where
  | cyclic {path before between : List (Registry τ)} {first r : Registry τ}
      (hsplit : path = before ++ first :: between) (hbefore : r.key ∉ before.map (·.key))
      (hfirst : first.key = r.key) : Meets scope path r []
        (.cyclicModel r.name ((first :: between).map (·.name) ++ [r.name]))
  | unresolved {path : List (Registry τ)} {r : Registry τ} {i : Nat} {field : String}
      {key : ModelKey τ} {error : SchemaError} (hpath : r.key ∉ path.map (·.key))
      (hreference : r.references[i]? = some (field, key))
      (hresolve : scope.resolve r.name field key = .error error) : Meets scope path r [i] error
  | deeper {path : List (Registry τ)} {r next : Registry τ} {i : Nat} {field : String}
      {key : ModelKey τ} {position : List Nat} {error : SchemaError}
      (hpath : r.key ∉ path.map (·.key)) (hreference : r.references[i]? = some (field, key))
      (hresolve : scope.resolve r.name field key = .ok next)
      (hnext : Meets scope (path ++ [r]) next position error) :
      Meets scope path r (i :: position) error

/-- The first error of the tree of a model: no other one stands before it. -/
def MeetsFirst (scope : Scope τ) (path : List (Registry τ)) (r : Registry τ)
    (error : SchemaError) : Prop :=
  ∃ position, scope.Meets path r position error ∧
    ∀ other error', scope.Meets path r other error' → ¬ List.Lex (· < ·) other position

variable {scope : Scope τ} {path : List (Registry τ)} {r : Registry τ} {error error' : SchemaError}

omit [DecidableEq τ] in
/-- A path with a key has a first model with that key. -/
theorem exists_first_of_mem {key : ModelKey τ} (h : key ∈ path.map (·.key)) :
    ∃ before first between, path = before ++ first :: between ∧ key ∉ before.map (·.key) ∧
      first.key = key := by
  obtain ⟨_, _, hmap, hbefore⟩ := List.eq_append_cons_of_mem h
  obtain ⟨before, _, rfl, rfl, htail⟩ := List.map_eq_append_iff.mp hmap
  obtain ⟨first, between, rfl, hfirst, -⟩ := List.map_eq_cons_iff.mp htail
  exact ⟨before, first, between, rfl, hbefore, hfirst⟩

/-- The cycle that a model closes starts where its key stands first. -/
theorem cycle_append {before between : List (Registry τ)} {first : Registry τ}
    (hbefore : r.key ∉ before.map (·.key)) (hfirst : first.key = r.key) :
    cycle (before ++ first :: between) r = (first :: between).map (·.name) ++ [r.name] := by
  rw [cycle, List.dropWhile_append_of_pos, List.dropWhile_cons_of_neg (by simp [hfirst])]
  intro model hmodel
  have hne : model.key ≠ r.key := fun h => hbefore (h ▸ List.mem_map_of_mem hmodel)
  simpa using hne

/-- An error at a reference is that of the reference, or one of the tree of the model that it leads
to. -/
theorem Meets.at_reference {i : Nat} {rest : List Nat} (h : scope.Meets path r (i :: rest) error)
    {field : String} {key : ModelKey τ} (hreference : r.references[i]? = some (field, key)) :
    rest = [] ∧ scope.resolve r.name field key = .error error ∨
      ∃ next, scope.resolve r.name field key = .ok next ∧
        scope.Meets (path ++ [r]) next rest error := by
  cases h with
  | unresolved _ hreference' hresolve =>
    cases hreference.symm.trans hreference'
    exact .inl ⟨rfl, hresolve⟩
  | deeper _ hreference' hresolve hnext =>
    cases hreference.symm.trans hreference'
    exact .inr ⟨_, hresolve, hnext⟩

/-- At most one error stands at a position. -/
theorem Meets.unique {position : List Nat} (h : scope.Meets path r position error)
    (h' : scope.Meets path r position error') : error = error' := by
  induction h with
  | cyclic hsplit hbefore hfirst =>
    cases h' with
    | cyclic hsplit' hbefore' hfirst' =>
      rw [← cycle_append hbefore hfirst, ← cycle_append hbefore' hfirst', ← hsplit, hsplit']
  | unresolved _ hreference hresolve =>
    rcases h'.at_reference hreference with ⟨-, hresolve'⟩ | ⟨_, hresolve', -⟩
    · exact Except.error.inj (hresolve.symm.trans hresolve')
    · cases hresolve.symm.trans hresolve'
  | deeper _ hreference hresolve _ ih =>
    rcases h'.at_reference hreference with ⟨-, hresolve'⟩ | ⟨_, hresolve', hnext'⟩
    · cases hresolve.symm.trans hresolve'
    · cases hresolve.symm.trans hresolve'
      exact ih hnext'

/-! ## The compiler -/

/-- A model is refused if one of its references is. -/
theorem exists_error_of_reference {i : Nat} {field : String} {key : ModelKey τ}
    (hreference : r.references[i]? = some (field, key))
    (h : (scope.resolve r.name field key >>= scope.expand (path ++ [r])) = .error error) :
    ∃ error', scope.expand path r = .error error' := by
  cases hexpand : scope.expand path r with
  | error error' => exact ⟨error', rfl⟩
  | ok document =>
    have hmentions := Registry.mem_references_iff.mp (List.mem_of_getElem? hreference)
    obtain ⟨mentioned, hok⟩ := Registry.exists_of_mentions (expand_eq_ok_iff.mp hexpand).2 hmentions
    cases h.symm.trans hok

/-- A model with an error in its tree is refused. -/
theorem Meets.exists_error {position : List Nat} (h : scope.Meets path r position error) :
    ∃ error', scope.expand path r = .error error' := by
  induction h with
  | @cyclic path before between first r hsplit hbefore hfirst =>
    have hmem : r.key ∈ path.map (·.key) := by simp [hsplit, hfirst]
    exact ⟨_, by rw [expand_eq, if_pos hmem]⟩
  | unresolved hpath hreference hresolve =>
    exact exists_error_of_reference hreference (bind_eq_error_iff.mpr (.inl hresolve))
  | deeper hpath hreference hresolve hnext ih =>
    obtain ⟨error', herror⟩ := ih
    exact exists_error_of_reference hreference
      (bind_eq_error_iff.mpr (.inr ⟨_, hresolve, herror⟩))

/-- An error below a model is at a reference that is refused. -/
theorem Meets.exists_reference (hpath : r.key ∉ path.map (·.key)) {position : List Nat}
    (h : scope.Meets path r position error) :
    ∃ i rest field key error', position = i :: rest ∧ r.references[i]? = some (field, key) ∧
      (scope.resolve r.name field key >>= scope.expand (path ++ [r])) = .error error' := by
  cases h with
  | cyclic hsplit hbefore hfirst => exact absurd (by simp [hsplit, hfirst]) hpath
  | unresolved _ hreference hresolve =>
    exact ⟨_, _, _, _, _, rfl, hreference, bind_eq_error_iff.mpr (.inl hresolve)⟩
  | deeper _ hreference hresolve hnext =>
    obtain ⟨error', herror⟩ := hnext.exists_error
    exact ⟨_, _, _, _, error', rfl, hreference, bind_eq_error_iff.mpr (.inr ⟨_, hresolve, herror⟩)⟩

/-- No error stands before one at the first reference that is refused, unless it is at that
reference, too. -/
theorem not_lex_of_meets (hpath : r.key ∉ path.map (·.key))
    {before after : List (String × ModelKey τ)} {reference : String × ModelKey τ}
    (hreferences : r.references = before ++ reference :: after)
    (hbefore : ∀ earlier ∈ before, ∃ document,
      (scope.resolve r.name earlier.1 earlier.2 >>= scope.expand (path ++ [r])) = .ok document)
    {position other : List Nat} (h : scope.Meets path r other error)
    (hfirst : ∀ rest, scope.Meets path r (before.length :: rest) error →
      ¬ List.Lex (· < ·) rest position) :
    ¬ List.Lex (· < ·) other (before.length :: position) := by
  obtain ⟨i, rest, field, key, error', rfl, hreference, herror⟩ := h.exists_reference hpath
  intro hlex
  cases hlex with
  | rel hearlier =>
    rw [hreferences, List.getElem?_append_left hearlier] at hreference
    obtain ⟨document, hok⟩ := hbefore _ (List.mem_of_getElem? hreference)
    cases hok.symm.trans herror
  | cons hlex => exact hfirst rest h hlex

/-- A model that is refused is refused with the first error of its tree. -/
theorem meetsFirst_of_expand (h : scope.expand path r = .error error) :
    scope.MeetsFirst path r error := by
  induction path, r using expand.induct scope generalizing error with
  | case1 path r hmem =>
    rw [expand_eq, if_pos hmem] at h
    cases h
    obtain ⟨before, first, between, rfl, hbefore, hfirst⟩ := exists_first_of_mem hmem
    rw [cycle_append hbefore hfirst]
    exact ⟨[], .cyclic rfl hbefore hfirst, fun _ _ _ => List.not_lex_nil⟩
  | case2 path r hmem ih =>
    rw [expand_eq, if_neg hmem, ← error?_eq_some_iff, Registry.error?_document,
      List.findSome?_eq_some_iff] at h
    -- The references before the first one that is refused have documents.
    obtain ⟨before, ⟨field, key⟩, after, hreferences, herror, hbefore⟩ := h
    simp only [error?_eq_none_iff] at hbefore
    have hreference : r.references[before.length]? = some (field, key) := by simp [hreferences]
    rw [error?_eq_some_iff, bind_eq_error_iff] at herror
    rcases herror with hresolve | ⟨next, hresolve, hexpand⟩
    · refine ⟨_, .unresolved hmem hreference hresolve, fun other error' h => ?_⟩
      exact not_lex_of_meets hmem hreferences hbefore h fun _ _ => List.not_lex_nil
    · obtain ⟨position, hmeets, hfirst⟩ := ih field key next hresolve hexpand
      refine ⟨_, .deeper hmem hreference hresolve hmeets, fun other error' h => ?_⟩
      refine not_lex_of_meets hmem hreferences hbefore h fun rest hrest => ?_
      rcases hrest.at_reference hreference with ⟨-, hresolve'⟩ | ⟨_, hresolve', hnext⟩
      · cases hresolve.symm.trans hresolve'
      · cases hresolve.symm.trans hresolve'
        exact hfirst rest error' hnext

/-- A model is refused exactly with the first error of its tree. -/
theorem expand_eq_error_iff :
    scope.expand path r = .error error ↔ scope.MeetsFirst path r error := by
  refine ⟨meetsFirst_of_expand, fun ⟨position, hmeets, hfirst⟩ => ?_⟩
  -- The error that the model is refused with stands first, too, so both stand at one position.
  obtain ⟨error', herror⟩ := hmeets.exists_error
  obtain ⟨position', hmeets', hfirst'⟩ := meetsFirst_of_expand herror
  obtain rfl : position = position' :=
    Std.Trichotomous.trichotomous _ _ (hfirst' _ _ hmeets) (hfirst _ _ hmeets')
  rw [herror, hmeets'.unique hmeets]

end Scope

namespace Catalog

/-! ## Errors of a catalog -/

/-- What an error of a model of a catalog says about models within reach: one of them has a field
with a candidate that is not declared, or some of them, all different, each embed the next, and the
last one the first. -/
inductive Genuine (c : Catalog τ) (start : String) : SchemaError → Prop where
  | unresolved {model field target : String} {r : Registry τ}
      (hreach : Relation.ReflTransGen c.Embeds start model) (hmodel : c.get? model = some r)
      (hmentions : r.Mentions field (.named target)) (hmissing : target ∉ c.names) :
      c.Genuine start (.unresolvedModel model field target)
  | cyclic {first : String} {rest : List String}
      (hreach : Relation.ReflTransGen c.Embeds start first) (hdistinct : (first :: rest).Nodup)
      (hcycle : (first :: rest ++ [first]).IsChain c.Embeds) :
      c.Genuine start (.cyclicModel first (first :: rest ++ [first]))

variable {c : Catalog τ} {family : Family τ}

omit [DecidableEq τ] in
/-- A model that closes a cycle on a path of distinct models, of which each embeds the next, closes
a cycle of the catalog. -/
theorem genuine_of_cycle {before between : List (Registry τ)} {start : String}
    {first r : Registry τ} (hname : first.name = r.name)
    (hstart : ((before ++ first :: between).map (·.name) ++ [r.name]).head? = some start)
    (hline : ((before ++ first :: between).map (·.name) ++ [r.name]).IsChain c.Embeds)
    (hdistinct : ((before ++ first :: between).map (·.name)).Nodup) :
    c.Genuine start (.cyclicModel r.name ((first :: between).map (·.name) ++ [r.name])) := by
  rw [List.map_append, List.map_cons, hname] at *
  rw [List.append_assoc] at hstart hline
  have hreach : Relation.ReflTransGen c.Embeds start r.name := by
    refine reflTransGen_of_isChain (List.isChain_split.mp hline).1 ?_ List.getLast?_concat
    rw [← hstart, List.head?_append, List.head?_append]
    rfl
  exact .cyclic hreach hdistinct.of_append_right hline.right_of_append

/-- Every error of the tree of a model is about models within reach of the first one on the path, if
the models on the path are distinct and each embeds the next. -/
theorem genuine_of_meets (hc : c.Named) {path : List (Registry τ)} {r : Registry τ}
    {position : List Nat} {error : SchemaError} {start : String}
    (h : Scope.Meets ⟨family, some c⟩ path r position error) (hr : c.get? r.name = some r)
    (hstart : (path.map (·.name) ++ [r.name]).head? = some start)
    (hline : (path.map (·.name) ++ [r.name]).IsChain c.Embeds)
    (hkeys : ∀ p ∈ path, p.key = .named p.name) (hdistinct : (path.map (·.name)).Nodup) :
    c.Genuine start error := by
  induction h with
  | @cyclic path before between first r hsplit hbefore hfirst =>
    subst hsplit
    have hname : first.name = r.name := by
      rw [hkeys first (by simp), hc.key_eq r (of_findNamed hr).1] at hfirst
      exact ModelKey.named.inj hfirst
    exact genuine_of_cycle hname hstart hline hdistinct
  | @unresolved path r i field key error hpath hreference hresolve =>
    have hmentions := Registry.mem_references_iff.mp (List.mem_of_getElem? hreference)
    obtain ⟨target, rfl⟩ := hc.mentions r (of_findNamed hr).1 field key hmentions
    obtain ⟨hmissing, rfl⟩ := resolve_named_eq_error_iff.mp hresolve
    exact .unresolved (reflTransGen_of_isChain hline hstart List.getLast?_concat) hr hmentions
      hmissing
  | @deeper path r next i field key position error hpath hreference hresolve hnext ih =>
    have hmentions := Registry.mem_references_iff.mp (List.mem_of_getElem? hreference)
    have hkey := hc.key_eq r (of_findNamed hr).1
    obtain ⟨target, rfl⟩ := hc.mentions r (of_findNamed hr).1 field key hmentions
    have hget := resolve_named_eq_ok_iff.mp hresolve
    obtain ⟨-, rfl⟩ := of_findNamed hget
    have hstep : c.Embeds r.name next.name := ⟨r, field, hr, hmentions⟩
    have hnew : r.name ∉ path.map (·.name) := by
      intro hmem
      obtain ⟨p, hp, hname⟩ := List.mem_map.mp hmem
      refine hpath (List.mem_map.mpr ⟨p, hp, ?_⟩)
      rw [hkeys p hp, hname, hkey]
    refine ih hget ?_ ?_ ?_ ?_
    · rw [List.map_append, List.map_singleton, List.head?_append, hstart]
      rfl
    · rw [List.map_append, List.map_singleton, List.append_assoc]
      exact List.isChain_split.mpr ⟨hline, List.isChain_cons_cons.mpr ⟨hstep, .singleton _⟩⟩
    · exact List.forall_mem_append.mpr ⟨hkeys, List.forall_mem_singleton.mpr hkey⟩
    · rw [List.map_append, List.map_singleton, List.nodup_append_comm]
      exact List.nodup_cons.mpr ⟨hnew, hdistinct⟩

/-- In the catalog of a manifest a model is refused exactly with the first error of its tree, and
that error is about models within reach. -/
theorem compileNamed_eq_error_iff {m : Manifest} (hc : ofManifest m = .ok c) {name : String}
    {r : Registry τ} (hr : c.get? name = some r) (error : SchemaError) :
    (Scope.compileNamed ⟨family, some c⟩ name = .error error ↔
      Scope.MeetsFirst ⟨family, some c⟩ [] r error) ∧
    (Scope.compileNamed ⟨family, some c⟩ name = .error error → c.Genuine name error) := by
  rw [compileNamed_of_get? hr, map_eq_error_iff, Scope.expand_eq_error_iff]
  refine ⟨Iff.rfl, fun hfirst => ?_⟩
  obtain ⟨position, hmeets, -⟩ := hfirst
  obtain ⟨-, rfl⟩ := of_findNamed hr
  exact genuine_of_meets (named_of_ofManifest hc) hmeets hr rfl (.singleton _)
    (List.forall_mem_nil _) List.nodup_nil

/-- A street refers to people, who live in houses that refer to people, and after that to a model
that is not declared. -/
def streets : Manifest :=
  ⟨[⟨"street", none, [⟨"people", "list", true, some (.many ["string", "person"]), []⟩,
      ⟨"town", "embedded", true, some (.one "town"), []⟩]⟩,
    ⟨"person", none, [⟨"home", "embedded", true, some (.one "house"), []⟩]⟩,
    ⟨"house", none, [⟨"floors", "int", false, none, []⟩,
      ⟨"owner", "embedded", false, some (.one "person"), []⟩]⟩]⟩

/-- The model of a street. -/
def streetRegistry : Registry Empty :=
  ⟨"street", .named "street",
    [("people", ⟨.list (.candidates [.primitive .string, .model (.named "person")]), true, []⟩),
      ("town", ⟨.embedded (.single (.model (.named "town"))), true, []⟩)]⟩

/-- The models of streets. -/
def streetsCatalog : Catalog Empty :=
  ⟨[streetRegistry,
    ⟨"person", .named "person",
      [("home", ⟨.embedded (.single (.model (.named "house"))), true, []⟩)]⟩,
    ⟨"house", .named "house", [("floors", ⟨.scalar .int, false, []⟩),
      ("owner", ⟨.embedded (.single (.model (.named "person"))), false, []⟩)]⟩]⟩

/-- A street is refused for the cycle of person and house, and not for the town. -/
theorem meetsFirst_street :
    Scope.MeetsFirst ⟨.none, some streetsCatalog⟩ [] streetRegistry
      (.cyclicModel "person" ["person", "house", "person"]) ∧
    streetsCatalog.Genuine "street" (.cyclicModel "person" ["person", "house", "person"]) := by
  have hstreets : ofManifest streets = .ok streetsCatalog := by cbv
  have hrefused : Scope.compileNamed ⟨.none, some streetsCatalog⟩ "street" =
      .error (.cyclicModel "person" ["person", "house", "person"]) := by
    cbv
  have hstreet : streetsCatalog.get? "street" = some streetRegistry := rfl
  exact ⟨(compileNamed_eq_error_iff hstreets hstreet _).1.mp hrefused,
    (compileNamed_eq_error_iff hstreets hstreet _).2 hrefused⟩

end Catalog
end ModelSchema
