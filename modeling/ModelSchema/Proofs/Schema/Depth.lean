import Mathlib.Data.List.Dedup
import ModelSchema.Proofs.Model.History
import ModelSchema.Proofs.Schema.Expansion

/-!
# How deep expansions are nested

The expansion of a model calls for that of the models that it refers to, some of them types of a
family and some models of a catalog, and these may refer to it again.  A model is refused if its key
is on the path already, so keys do not repeat there.  Only the first model may be from outside the
scope, whose models are finitely many: that bounds the path, and with it the depth of the calls.

An expansion that gives up below some depth is a function by recursion on that depth.  If the depth
is above the bound it never gives up, and finds what the expansion finds.

Main results:

- Theorem `Scope.Nested.nodup_keys`: no key is on a path twice.
- Theorem `Scope.Nested.depth_le`: how deep a call can be nested.
- Theorem `Scope.expandTo_eq`: an expansion that may go deeper than the bound is complete.
- Theorem `Scope.compile_bounded`: compiling a model, with all of this.
-/

namespace ModelSchema

variable {τ : Type} [DecidableEq τ]

namespace Scope

variable {scope : Scope τ} {root r : Registry τ} {path : List (Registry τ)} {depth : Nat}

/-! ## Calls -/

/-- The calls that the expansion of a root leads to, each at a depth: the root is expanded first,
and a call for a model whose key is not on the path leads to calls for the models that it refers
to, with the model at the end of the path. -/
inductive Nested (scope : Scope τ) (root : Registry τ) :
    Nat → List (Registry τ) → Registry τ → Prop where
  | root : Nested scope root 0 [] root
  | next {depth : Nat} {path : List (Registry τ)} {r next : Registry τ}
      (h : Nested scope root depth path r) (hpath : r.key ∉ path.map (·.key))
      (hnext : scope.LeadsTo r next) : Nested scope root (depth + 1) (path ++ [r]) next

/-- A call is nested in one call for each model on its path. -/
theorem Nested.length_eq (h : scope.Nested root depth path r) : path.length = depth := by
  induction h with
  | root => rfl
  | next _ _ _ ih => rw [List.length_append, List.length_singleton, ih]

/-- No key is on a path twice. -/
theorem Nested.nodup_keys (h : scope.Nested root depth path r) : (path.map (·.key)).Nodup := by
  induction h with
  | root => exact List.nodup_nil
  | next _ hpath _ ih =>
    rw [List.map_append, List.map_singleton, List.nodup_append_comm]
    exact List.nodup_cons.mpr ⟨hpath, ih⟩

/-- A call is for the root or for a model of the scope. -/
theorem Nested.key_mem (h : scope.Nested root depth path r) :
    r.key ∈ root.key :: scope.keys := by
  cases h with
  | root => exact List.mem_cons_self
  | next _ _ hnext =>
    obtain ⟨_, _, -, hresolve⟩ := hnext
    exact List.mem_cons_of_mem _ (key_mem_of_resolve hresolve)

/-- On a path are the root and models of the scope. -/
theorem Nested.keys_subset (h : scope.Nested root depth path r) :
    path.map (·.key) ⊆ root.key :: scope.keys := by
  induction h with
  | root => exact List.nil_subset _
  | next h _ _ ih =>
    rw [List.map_append, List.map_singleton, List.append_subset]
    exact ⟨ih, List.cons_subset.mpr ⟨h.key_mem, List.nil_subset _⟩⟩

/-! ## Depth -/

/-- Different keys of a root and a scope are no more than the types of the family, the models of the
catalog and one. -/
theorem length_le_of_subset {keys : List (ModelKey τ)} (hnodup : keys.Nodup) {key : ModelKey τ}
    (hsub : keys ⊆ key :: scope.keys) :
    keys.length ≤ 1 + scope.models.length + scope.family.all.dedup.length := by
  -- A type may be listed more than once, and counts once.
  have hdedup : keys ⊆
      key :: (scope.family.all.dedup.map .typed ++ scope.models.map (·.key)) := by
    intro k hk
    simpa [Scope.keys] using hsub hk
  have hle := (List.subperm_of_subset hnodup hdedup).length_le
  rw [List.length_cons, List.length_append, List.length_map, List.length_map] at hle
  omega

/-- A call is nested in at most as many others as there are models of the scope, and one. -/
theorem Nested.depth_le (h : scope.Nested root depth path r) :
    depth ≤ 1 + scope.models.length + scope.family.all.dedup.length := by
  rw [← h.length_eq, ← List.length_map (·.key)]
  exact length_le_of_subset h.nodup_keys h.keys_subset

/-- A call that leads to others is nested less deep. -/
theorem Nested.depth_lt (h : scope.Nested root depth path r) (hpath : r.key ∉ path.map (·.key)) :
    depth < 1 + scope.models.length + scope.family.all.dedup.length := by
  have hnodup : (r.key :: path.map (·.key)).Nodup := List.nodup_cons.mpr ⟨hpath, h.nodup_keys⟩
  have hle := length_le_of_subset hnodup (List.cons_subset.mpr ⟨h.key_mem, h.keys_subset⟩)
  rwa [List.length_cons, List.length_map, h.length_eq] at hle

/-! ## Expansions of bounded depth -/

/-- The expansion of a model by calls that are nested less than some number of times; what a call
says that would be nested deeper is given. -/
def expandTo (scope : Scope τ) (beyond : Except SchemaError Fragment) :
    Nat → List (Registry τ) → Registry τ → Except SchemaError Fragment
  | 0, _, _ => beyond
  | depth + 1, path, r =>
    if r.key ∈ path.map (·.key) then .error (.cyclicModel r.name (cycle path r))
    else r.document fun field key =>
      scope.resolve r.name field key >>= expandTo scope beyond depth (path ++ [r])

theorem expandTo_succ (beyond : Except SchemaError Fragment) (left : Nat) :
    scope.expandTo beyond (left + 1) path r =
      if r.key ∈ path.map (·.key) then .error (.cyclicModel r.name (cycle path r))
      else r.document fun field key =>
        scope.resolve r.name field key >>= scope.expandTo beyond left (path ++ [r]) :=
  rfl

/-- A nested call finds what the expansion finds if calls below it may be nested to the bound. -/
theorem expandTo_eq (beyond : Except SchemaError Fragment) {left : Nat}
    (h : scope.Nested root depth path r)
    (hleft : 1 + scope.models.length + scope.family.all.dedup.length < depth + left) :
    scope.expandTo beyond left path r = scope.expand path r := by
  induction left generalizing depth path r with
  | zero =>
    have hdepth := h.depth_le
    omega
  | succ left ih =>
    rw [expandTo_succ, expand_eq]
    split
    · rfl
    · rename_i hpath
      refine Registry.document_congr fun field key hmentions => ?_
      cases hresolve : scope.resolve r.name field key with
      | error error => rfl
      | ok next =>
        have hnext : scope.Nested root (depth + 1) (path ++ [r]) next :=
          .next h hpath ⟨field, key, hmentions, hresolve⟩
        exact ih hnext (by omega)

/-- Compiling any model in any scope ends.  No key is on the path of a call twice, and all keys
there are those of the root, of models of the catalog and of types of the family; so no call is
nested more often than these are, and calls that are nested as often lead to no others.  Without
deeper calls the compiler finds the same. -/
theorem compile_bounded (scope : Scope τ) (root : Registry τ) :
    (∀ {depth : Nat} {path : List (Registry τ)} {r : Registry τ},
      scope.Nested root depth path r →
        path.length = depth ∧ (path.map (·.key)).Nodup ∧
        (∀ p ∈ path, p.key = root.key ∨ (∃ model ∈ scope.models, p.key = model.key) ∨
          ∃ t : τ, p.key = .typed t) ∧
        depth ≤ 1 + scope.models.length + scope.family.all.dedup.length ∧
        (r.key ∉ path.map (·.key) →
          depth < 1 + scope.models.length + scope.family.all.dedup.length)) ∧
    ∀ beyond, scope.compile root =
      (scope.expandTo beyond (2 + scope.models.length + scope.family.all.dedup.length) []
        root).map .object := by
  refine ⟨fun h => ⟨h.length_eq, h.nodup_keys, fun p hp => ?_, h.depth_le, h.depth_lt⟩,
    fun beyond => ?_⟩
  · have hkey := h.keys_subset (List.mem_map_of_mem hp)
    simp only [Scope.keys, List.mem_cons, List.mem_append, List.mem_map] at hkey
    rcases hkey with hroot | ⟨t, -, htyped⟩ | ⟨model, hmodel, hnamed⟩
    · exact .inl hroot
    · exact .inr (.inr ⟨t, htyped.symm⟩)
    · exact .inr (.inl ⟨model, hmodel, hnamed.symm⟩)
  · rw [compile, expandTo_eq beyond .root (by omega)]

/-- A reference to a customer. -/
def toCustomer : Field Unit := .ofShape (.embedded (.single (.model (.named "customer"))))

/-- A customer may be there on the advice of another one. -/
def customer : Registry Unit := ⟨"customer", .named "customer", [("adviser", toCustomer)]⟩

/-- Invoices are a type of their own. -/
def invoice : Registry Unit := ⟨"Invoice", .typed (), [("customer", toCustomer)]⟩

/-- A draft is not in the catalog; it has invoices, or texts in their place. -/
def draft : Registry Unit :=
  ⟨"draft", .named "draft",
    [("invoices", .ofShape (.list (.candidates [.primitive .string, .model (.typed ())])))]⟩

/-- A type of invoices, and a catalog of customers. -/
def billing : Scope Unit where
  family :=
    { all := [()]
      mem_all := fun _ => List.mem_singleton_self _
      name := fun _ => "Invoice"
      declare := fun _ => [.field "customer" toCustomer] }
  catalog := some ⟨[customer]⟩

theorem leadsTo_invoice : billing.LeadsTo draft invoice :=
  ⟨"invoices", .typed (), ⟨_, _, List.mem_singleton_self _, rfl, by simp [Target.toList]⟩, by cbv⟩

/-- An invoice and a customer refer to a customer. -/
theorem leadsTo_customer {r : Registry Unit} {field : String}
    (h : r.fields = [(field, toCustomer)]) : billing.LeadsTo r customer := by
  refine ⟨field, .named "customer", ⟨toCustomer, _, ?_, rfl, List.mem_singleton_self _⟩, rfl⟩
  rw [h]
  exact List.mem_singleton_self _

/-- From a draft an invoice leads to a customer and to the customer again, as deep as the bound. -/
theorem nested_customer : billing.Nested draft 3 [draft, invoice, customer] customer :=
  .next (.next (.next .root (by decide) leadsTo_invoice) (by decide) (leadsTo_customer rfl))
    (by decide) (leadsTo_customer rfl)

/-- That is as deep as calls can be nested, and no deeper one is needed. -/
theorem compile_draft :
    1 + billing.models.length + billing.family.all.dedup.length = 3 ∧
      ([draft, invoice, customer].map (·.key)).Nodup ∧
      billing.compile draft = (billing.expandTo (.ok []) 4 [] draft).map .object := by
  obtain ⟨hcalls, hcompile⟩ := compile_bounded billing draft
  obtain ⟨-, hnodup, -, hdepth, -⟩ := hcalls nested_customer
  exact ⟨Nat.le_antisymm (by decide) hdepth, hnodup, hcompile (.ok [])⟩

end Scope
end ModelSchema
