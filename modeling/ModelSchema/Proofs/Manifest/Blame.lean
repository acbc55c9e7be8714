import ModelSchema.Proofs.Manifest.Inheritance
import ModelSchema.Proofs.Manifest.Refusal

/-!
# Which error a manifest is refused with

A manifest can have several faults, and is refused with one of them.  A name that is declared twice
comes first.  Otherwise it is the first model, in the order of the manifest, whose line of ancestors
is at fault: the line may lead to a parent that is not declared, or back to one of its models, or
else come to an end above entries of which some are not well-formed.

Main results:

- Theorem `Manifest.LineFault.unique`: a line of ancestors has at most one fault.
- Theorem `Manifest.lineFault_of_place`: a model is refused for the fault of its line.
- Theorem `Catalog.ofManifest_eq_error_iff`: the error of every manifest that is refused.
-/

namespace ModelSchema

variable {τ : Type}

namespace Manifest

/-! ## Lines of ancestors -/

/-- A model has a declared parent. -/
def Inherits (m : Manifest) (child next : ModelEntry) : Prop :=
  ∃ parent, child.parent = some parent ∧ m.find? parent = some next

/-- A line of models from a model on, of which each is followed by its parent. -/
structure Ascends (m : Manifest) (start : ModelEntry) (line : List ModelEntry) : Prop where
  head : line.head? = some start
  chain : line.IsChain m.Inherits

/-- The fault of the line of ancestors of a model: an ancestor extends a model that is not declared,
or the line returns to one of its models, or else it ends, and the fault is that of the last model
on it whose entry is not well-formed. -/
inductive LineFault (m : Manifest) (start : ModelEntry) : CatalogError → Prop where
  | unknown {line : List ModelEntry} {last : ModelEntry} {parent : String}
      (hline : m.Ascends start line) (hlast : line.getLast? = some last)
      (hparent : last.parent = some parent) (hmissing : parent ∉ m.names) :
      LineFault m start (.unknownParent last.name parent)
  | cyclic {below cycle : List ModelEntry} {first last : ModelEntry}
      (hline : m.Ascends start (below ++ cycle))
      (hnodup : ((below ++ cycle).map (·.name)).Nodup) (hfirst : cycle.head? = some first)
      (hlast : cycle.getLast? = some last) (hback : last.parent = some first.name) :
      LineFault m start (.model first.name (.cyclicInheritance first.name
        (cycle.map (·.name) ++ [first.name])))
  | own {below above : List ModelEntry} {entry last : ModelEntry} {source : ModelError}
      (hline : m.Ascends start (below ++ entry :: above))
      (hlast : (entry :: above).getLast? = some last) (hroot : last.parent = none)
      (habove : ∀ other ∈ above, other.WellFormed) (hfault : entry.Fault source) :
      LineFault m start (.model entry.name source)

section Lines

variable {m : Manifest} {start : ModelEntry}

theorem rightUnique_inherits : Relator.RightUnique m.Inherits := by
  rintro child next next' ⟨parent, hparent, hnext⟩ ⟨parent', hparent', hnext'⟩
  rw [hparent, Option.some.injEq] at hparent'
  subst hparent'
  exact Option.some.inj (hnext.symm.trans hnext')

/-- A line goes on with what follows its last model. -/
theorem Ascends.append {below above : List ModelEntry} {entry : ModelEntry}
    (h : m.Ascends start (below ++ [entry])) (habove : (entry :: above).IsChain m.Inherits) :
    m.Ascends start (below ++ entry :: above) := by
  refine ⟨?_, List.isChain_split.mpr ⟨h.chain, habove⟩⟩
  have hhead := h.head
  rwa [List.head?_append] at hhead ⊢

/-- A model without a parent has nothing above it. -/
theorem not_inherits_of_root {last : ModelEntry} (h : last.parent = none) (next : ModelEntry) :
    ¬ m.Inherits last next := by
  rintro ⟨parent, hparent, -⟩
  simp [h] at hparent

/-- A model with a parent that is not declared has nothing above it. -/
theorem not_inherits_of_unknown {last : ModelEntry} {parent : String}
    (hparent : last.parent = some parent) (hmissing : parent ∉ m.names) (next : ModelEntry) :
    ¬ m.Inherits last next := by
  rintro ⟨parent', hparent', hnext⟩
  obtain rfl : parent = parent' := by simpa [hparent] using hparent'
  obtain ⟨hmem, rfl⟩ := of_findNamed hnext
  exact hmissing (List.mem_map_of_mem hmem)

/-- A line that ends continues all others. -/
theorem Ascends.isPrefix {line line' : List ModelEntry} {last : ModelEntry}
    (h : m.Ascends start line) (hlast : line.getLast? = some last)
    (hend : ∀ next, ¬ m.Inherits last next) (h' : m.Ascends start line') : line' <+: line := by
  obtain ⟨rest, rfl⟩ := List.head?_eq_some_iff.mp h.head
  obtain ⟨rest', rfl⟩ := List.head?_eq_some_iff.mp h'.head
  exact isPrefix_of_isChain_of_end rightUnique_inherits h.chain hlast hend h'.chain

/-- A model has at most one line that ends. -/
theorem Ascends.eq_of_end {line line' : List ModelEntry} {last last' : ModelEntry}
    (h : m.Ascends start line) (hlast : line.getLast? = some last)
    (hend : ∀ next, ¬ m.Inherits last next) (h' : m.Ascends start line')
    (hlast' : line'.getLast? = some last') (hend' : ∀ next, ¬ m.Inherits last' next) :
    line = line' :=
  (h'.isPrefix hlast' hend' h).eq_of_length_le (h.isPrefix hlast hend h').length_le

/-- A line that ends does not return to any of its models. -/
theorem Ascends.not_cyclic {line below cycle : List ModelEntry} {last first last' : ModelEntry}
    (h : m.Ascends start line) (hlast : line.getLast? = some last)
    (hend : ∀ next, ¬ m.Inherits last next) (h' : m.Ascends start (below ++ cycle))
    (hfirst : cycle.head? = some first) (hlast' : cycle.getLast? = some last') :
    ¬ m.Inherits last' first := by
  intro hback
  obtain ⟨rest, rfl⟩ := List.head?_eq_some_iff.mp h.head
  obtain ⟨more, rfl⟩ := List.head?_eq_some_iff.mp hfirst
  have hacc := acc_of_isChain_of_end rightUnique_inherits h.chain hlast hend
  have hhead : (below ++ [first]).head? = some start := by
    rw [← h'.head, List.head?_append, List.head?_append]
    rfl
  have hbelow := (List.isChain_split.mp h'.chain).1
  have hreach := reflTransGen_of_isChain hbelow hhead List.getLast?_concat
  have hcycle := reflTransGen_of_isChain h'.chain.right_of_append hfirst hlast'
  exact not_transGen_self_of_acc (acc_of_reflTransGen hacc hreach) (.tail' hcycle hback)

/-- The models on a line are declared if the first one is. -/
theorem Ascends.mem {line : List ModelEntry} (h : m.Ascends start line)
    (hstart : start ∈ m.models) {entry : ModelEntry} (hentry : entry ∈ line) :
    entry ∈ m.models := by
  obtain ⟨below, above, rfl⟩ := List.append_of_mem hentry
  rcases List.eq_nil_or_concat' below with rfl | ⟨init, child, rfl⟩
  · have hhead := h.head
    rw [List.nil_append, List.head?_cons, Option.some.injEq] at hhead
    rwa [hhead]
  · have hchain := h.chain
    rw [List.isChain_append] at hchain
    obtain ⟨_, -, hnext⟩ := hchain.2.2 child List.getLast?_concat entry rfl
    exact List.mem_of_find?_eq_some hnext

/-! ## At most one fault -/

/-- An entry with a fault is not well-formed. -/
theorem not_wellFormed_of_fault {entry : ModelEntry} {source : ModelError}
    (h : entry.Fault source) : ¬ entry.WellFormed :=
  ModelEntry.exists_fault_iff.mp ⟨source, h⟩

/-- On a line of distinct models, no model before a cycle has the name of its first one. -/
theorem eq_nil_of_append_cycle {between cycle : List ModelEntry} {first first' : ModelEntry}
    (hnodup : ((between ++ cycle).map (·.name)).Nodup)
    (hfirst : (between ++ cycle).head? = some first) (hfirst' : cycle.head? = some first')
    (hname : first.name = first'.name) : between = [] := by
  cases between with
  | nil => rfl
  | cons model rest =>
    obtain rfl : model = first := by simpa using hfirst
    obtain ⟨more, rfl⟩ := List.head?_eq_some_iff.mp hfirst'
    simp [hname] at hnodup

/-- A line of distinct models that returns to one of them does not go on. -/
theorem Ascends.eq_of_isPrefix {below cycle line : List ModelEntry} {first last : ModelEntry}
    (hfirst : cycle.head? = some first) (hlast : cycle.getLast? = some last)
    (hback : last.parent = some first.name) (h : m.Ascends start line)
    (hnodup : (line.map (·.name)).Nodup) (hle : below ++ cycle <+: line) :
    below ++ cycle = line := by
  obtain ⟨more, rfl⟩ := hle
  cases more with
  | nil => rw [List.append_nil]
  | cons next rest =>
    have hlast' : (below ++ cycle).getLast? = some last := by
      rw [List.getLast?_append, hlast]
      rfl
    obtain ⟨parent, hparent, hnext⟩ :=
      (List.isChain_append.mp h.chain).2.2 last hlast' next rfl
    obtain rfl : first.name = parent := by simpa [hback] using hparent
    have hname := (of_findNamed hnext).2
    have hmem : first.name ∈ (below ++ cycle).map (·.name) :=
      List.mem_map_of_mem (List.mem_append_right _ (List.mem_of_head? hfirst))
    rw [List.map_append, List.nodup_append] at hnodup
    exact absurd hname.symm (hnodup.2.2 _ hmem _ (by simp))

/-- A line of distinct models returns to one of them in one way. -/
theorem Ascends.cycle_unique {below below' cycle cycle' : List ModelEntry}
    {first first' last last' : ModelEntry} (h : m.Ascends start (below ++ cycle))
    (hnodup : ((below ++ cycle).map (·.name)).Nodup) (hfirst : cycle.head? = some first)
    (hlast : cycle.getLast? = some last) (hback : last.parent = some first.name)
    (h' : m.Ascends start (below' ++ cycle'))
    (hnodup' : ((below' ++ cycle').map (·.name)).Nodup) (hfirst' : cycle'.head? = some first')
    (hlast' : cycle'.getLast? = some last') (hback' : last'.parent = some first'.name) :
    cycle = cycle' := by
  have heq : below ++ cycle = below' ++ cycle' := by
    obtain ⟨rest, hrest⟩ := List.head?_eq_some_iff.mp h.head
    obtain ⟨rest', hrest'⟩ := List.head?_eq_some_iff.mp h'.head
    rcases isPrefix_or_isPrefix_of_isChain rightUnique_inherits (hrest ▸ h.chain)
      (hrest' ▸ h'.chain) with hle | hle
    · rw [← hrest, ← hrest'] at hle
      exact Ascends.eq_of_isPrefix hfirst hlast hback h' hnodup' hle
    · rw [← hrest, ← hrest'] at hle
      exact (Ascends.eq_of_isPrefix hfirst' hlast' hback' h hnodup hle).symm
  have hlasteq : last = last' := by
    have hgoal := congrArg List.getLast? heq
    rw [List.getLast?_append, List.getLast?_append, hlast, hlast'] at hgoal
    exact Option.some.inj hgoal
  have hname : first.name = first'.name := by
    rw [hlasteq, hback', Option.some.injEq] at hback
    exact hback.symm
  rw [List.map_append] at hnodup hnodup'
  rcases List.append_eq_append_iff.mp heq with ⟨between, -, rfl⟩ | ⟨between, -, rfl⟩
  · rw [eq_nil_of_append_cycle hnodup.of_append_right hfirst hfirst' hname, List.nil_append]
  · rw [eq_nil_of_append_cycle hnodup'.of_append_right hfirst' hfirst hname.symm,
      List.nil_append]

/-- Under distinct names, a model that is named as a parent is the parent. -/
theorem inherits_of_parent (hnodup : m.names.Nodup) {child next : ModelEntry}
    (hnext : next ∈ m.models) (hparent : child.parent = some next.name) :
    m.Inherits child next :=
  ⟨_, hparent, findNamed_of_mem hnodup hnext⟩

variable {error error' : CatalogError}

/-- The fault of a line that ends is in what its last model extends or in one of its entries. -/
theorem LineFault.of_end (hnodup : m.names.Nodup) (hstart : start ∈ m.models)
    {line : List ModelEntry} {last : ModelEntry} (hline : m.Ascends start line)
    (hlast : line.getLast? = some last) (hend : ∀ next, ¬ m.Inherits last next)
    (h : m.LineFault start error) :
    (∃ parent, last.parent = some parent ∧ error = .unknownParent last.name parent) ∨
      last.parent = none ∧ ∃ below entry above source, line = below ++ entry :: above ∧
        (∀ other ∈ above, other.WellFormed) ∧ entry.Fault source ∧
        error = .model entry.name source := by
  cases h with
  | unknown hline' hlast' hparent hmissing =>
    have hend' := not_inherits_of_unknown hparent hmissing
    obtain rfl := hline.eq_of_end hlast hend hline' hlast' hend'
    obtain rfl := Option.some.inj (hlast.symm.trans hlast')
    exact .inl ⟨_, hparent, rfl⟩
  | cyclic hline' _ hfirst hlast' hback =>
    have hmem := hline'.mem hstart (List.mem_append_right _ (List.mem_of_head? hfirst))
    exact absurd (inherits_of_parent hnodup hmem hback)
      (hline.not_cyclic hlast hend hline' hfirst hlast')
  | own hline' hlast' hroot habove hfault =>
    rw [← List.getLast?_append_cons] at hlast'
    obtain rfl := hline.eq_of_end hlast hend hline' hlast' (not_inherits_of_root hroot)
    obtain rfl := Option.some.inj (hlast.symm.trans hlast')
    exact .inr ⟨hroot, _, _, _, _, rfl, habove, hfault, rfl⟩

/-- The line of a model has at most one fault. -/
theorem LineFault.unique (hnodup : m.names.Nodup) (hstart : start ∈ m.models)
    (h : m.LineFault start error) (h' : m.LineFault start error') : error = error' := by
  cases h with
  | unknown hline hlast hparent hmissing =>
    have hend := not_inherits_of_unknown hparent hmissing
    rcases h'.of_end hnodup hstart hline hlast hend with ⟨_, hparent', rfl⟩ | ⟨hroot, -⟩
    · rw [Option.some.inj (hparent.symm.trans hparent')]
    · simp [hparent] at hroot
  | cyclic hline hdistinct hfirst hlast hback =>
    have hcycle := inherits_of_parent hnodup
      (hline.mem hstart (List.mem_append_right _ (List.mem_of_head? hfirst))) hback
    cases h' with
    | unknown hline' hlast' hparent hmissing =>
      exact absurd hcycle (hline'.not_cyclic hlast' (not_inherits_of_unknown hparent hmissing)
        hline hfirst hlast)
    | cyclic hline' hdistinct' hfirst' hlast' hback' =>
      obtain rfl := hline.cycle_unique hdistinct hfirst hlast hback hline' hdistinct' hfirst'
        hlast' hback'
      obtain rfl := Option.some.inj (hfirst.symm.trans hfirst')
      rfl
    | own hline' hlast' hroot _ _ =>
      rw [← List.getLast?_append_cons] at hlast'
      exact absurd hcycle (hline'.not_cyclic hlast' (not_inherits_of_root hroot) hline hfirst hlast)
  | own hline hlast hroot habove hfault =>
    rw [← List.getLast?_append_cons] at hlast
    have hend := not_inherits_of_root (m := m) hroot
    rcases h'.of_end hnodup hstart hline hlast hend with
      ⟨_, hparent, -⟩ | ⟨-, _, _, _, _, heq, habove', hfault', rfl⟩
    · simp [hroot] at hparent
    · have hlasteq := eq_of_last (p := fun other => ¬ other.WellFormed) heq
        (fun other hother => not_not_intro (habove other hother))
        (fun other hother => not_not_intro (habove' other hother))
        (not_wellFormed_of_fault hfault) (not_wellFormed_of_fault hfault')
      subst hlasteq
      rw [hfault.unique hfault']

/-! ## Models that resolve -/

/-- The line of a model that resolves ends, and all entries on it are well-formed. -/
theorem Resolves.exists_line {entry : ModelEntry} {r : Registry τ} (h : m.Resolves entry r) :
    ∃ above last, (entry :: above).IsChain m.Inherits ∧
      (entry :: above).getLast? = some last ∧ last.parent = none ∧
      ∀ other ∈ entry :: above, other.WellFormed := by
  induction h with
  | root hparent hresolve =>
    exact ⟨[], _, .singleton _, rfl, hparent,
      List.forall_mem_singleton.mpr (exists_resolve_iff.mp ⟨_, hresolve⟩)⟩
  | child hparent hnext _ hresolve ih =>
    obtain ⟨above, last, hchain, hlast, hroot, hall⟩ := ih
    exact ⟨_ :: above, last, List.isChain_cons_cons.mpr ⟨⟨_, hparent, hnext⟩, hchain⟩,
      by rwa [List.getLast?_cons_cons], hroot,
      List.forall_mem_cons.mpr ⟨exists_resolve_iff.mp ⟨_, hresolve⟩, hall⟩⟩

/-- The line of a model that resolves is not at fault. -/
theorem Resolves.not_lineFault (hnodup : m.names.Nodup) (hstart : start ∈ m.models)
    {r : Registry τ} (h : m.Resolves start r) : ¬ m.LineFault start error := by
  intro hfault
  obtain ⟨above, last, hchain, hlast, hroot, hall⟩ := h.exists_line
  rcases hfault.of_end hnodup hstart ⟨rfl, hchain⟩ hlast (not_inherits_of_root hroot) with
    ⟨_, hparent, -⟩ | ⟨-, below, entry, _, _, heq, -, hentry, -⟩
  · simp [hroot] at hparent
  · have hmem : entry ∈ start :: above := heq ▸ List.mem_append_right below List.mem_cons_self
    exact not_wellFormed_of_fault hentry (hall entry hmem)

end Lines

/-! ## Building models -/

/-- A model that is asked for on a line that it stands on already closes a cycle. -/
theorem lineFault_of_mem {m : Manifest} {start entry : ModelEntry} {below : List ModelEntry}
    (hline : m.Ascends start (below ++ [entry])) (hdistinct : (below.map (·.name)).Nodup)
    (hmem : entry.name ∈ below.map (·.name)) :
    m.LineFault start (.model entry.name (.cyclicInheritance entry.name
      ((below.map (·.name)).dropWhile (· ≠ entry.name) ++ [entry.name]))) := by
  -- The cycle starts at the model of that name.
  obtain ⟨before, first, between, rfl, hname⟩ :
      ∃ before first between, below = before ++ first :: between ∧ first.name = entry.name := by
    obtain ⟨first, hfirst, hname⟩ := List.mem_map.mp hmem
    obtain ⟨before, between, rfl⟩ := List.append_of_mem hfirst
    exact ⟨before, first, between, rfl, hname⟩
  obtain ⟨last, hlast⟩ : ∃ last, (first :: between).getLast? = some last :=
    ⟨_, List.getLast?_eq_getLast_of_ne_nil (List.cons_ne_nil _ _)⟩
  have hback : last.parent = some first.name := by
    have hlast' : (before ++ first :: between).getLast? = some last := by
      rwa [List.getLast?_append_cons]
    obtain ⟨parent, hparent, hnext⟩ :=
      (List.isChain_append.mp hline.chain).2.2 last hlast' entry rfl
    rw [hparent, hname, (of_findNamed hnext).2]
  have hbefore : Ascends m start (before ++ first :: between) := by
    refine ⟨?_, hline.chain.left_of_append⟩
    rw [← hline.head]
    simp
  have hdrop : ((before ++ first :: between).map (·.name)).dropWhile (· ≠ entry.name) =
      (first :: between).map (·.name) := by
    rw [List.map_append, List.nodup_append] at hdistinct
    rw [List.map_append, List.dropWhile_append_of_pos, List.map_cons,
      List.dropWhile_cons_of_neg (by simp [hname])]
    intro name hbefore
    simpa [hname] using hdistinct.2.2 name hbefore first.name (by simp)
  rw [hdrop, ← hname]
  exact .cyclic hbefore hdistinct rfl hlast hback

/-- A model below others that is refused is refused for the fault of the line that the lowest of
them starts. -/
theorem lineFault_of_place {m : Manifest} {start : ModelEntry} (stack : List String)
    (entry : ModelEntry) (hmem : entry ∈ m.models) (built : Built τ)
    (hentry : m.find? entry.name = some entry) (hbuilt : m.Records built)
    (hdistinct : stack.Nodup) {error : CatalogError} :
    ∀ below : List ModelEntry, below.map (·.name) = stack → m.Ascends start (below ++ [entry]) →
      m.place stack entry hmem built = .error error → m.LineFault start error := by
  fun_induction m.place stack entry hmem built with
  | case1 stack entry hmem registry hlookup =>
    rintro below - - ⟨⟩
  | case2 stack entry hmem hlookup hunder =>
    rintro below rfl hline ⟨⟩
    exact lineFault_of_mem hline hdistinct hunder
  | case3 stack entry hmem hlookup hunder finish hparent =>
    intro below hstack hline h
    obtain ⟨source, hfault, rfl⟩ := resolve_eq_error_iff.mp (map_eq_error_iff.mp h)
    exact .own hline rfl hparent (List.forall_mem_nil _) hfault
  | case4 stack entry hmem hlookup hunder parent hparent hnext =>
    rintro below hstack hline ⟨⟩
    exact .unknown hline List.getLast?_concat hparent (findNamed_eq_none_iff.mp hnext)
  | case5 stack entry hmem hlookup hunder parent hparent next hnext error hplace ih =>
    rintro below rfl hline ⟨⟩
    have hname : m.find? next.name = some next := by rwa [(of_findNamed hnext).2]
    have hstep : m.Inherits entry next := ⟨parent, hparent, hnext⟩
    have hline' : m.Ascends start (below ++ [entry] ++ [next]) := by
      rw [List.append_assoc]
      exact hline.append (List.isChain_cons_cons.mpr ⟨hstep, .singleton next⟩)
    have hdistinct' : (below.map (·.name) ++ [entry.name]).Nodup := by
      rw [List.nodup_append_comm]
      exact List.nodup_cons.mpr ⟨hunder, hdistinct⟩
    exact ih hname hdistinct' (below ++ [entry]) (by simp) hline' hplace
  | case6 stack entry hmem hlookup hunder finish parent hparent next hnext p built' hplace ih =>
    intro below hstack hline h
    have hname : m.find? next.name = some next := by rwa [(of_findNamed hnext).2]
    have hstep : m.Inherits entry next := ⟨parent, hparent, hnext⟩
    have hp := ((place_spec _ next _ built hname hbuilt).1 p built' hplace).1
    obtain ⟨above, last, hchain, hlast, hroot, hall⟩ := hp.exists_line
    obtain ⟨source, hfault, rfl⟩ := resolve_eq_error_iff.mp (map_eq_error_iff.mp h)
    refine .own (hline.append (List.isChain_cons_cons.mpr ⟨hstep, hchain⟩)) ?_ hroot hall hfault
    rwa [List.getLast?_cons_cons]

/-- Of several models that are built in order, the first one with a fault decides; those before it
resolve. -/
theorem lineFault_of_placeAll {m : Manifest} (hnodup : m.names.Nodup) (entries : List ModelEntry)
    (hmem : ∀ entry ∈ entries, entry ∈ m.models) (built : Built τ) (hbuilt : m.Records built)
    {error : CatalogError} (h : m.placeAll entries hmem built = .error error) :
    ∃ before start after, entries = before ++ start :: after ∧
      (∀ other ∈ before, ∃ r : Registry τ, m.Resolves other r) ∧ m.LineFault start error := by
  induction entries generalizing built with
  | nil => cases h
  | cons entry rest ih =>
    have hentry : m.find? entry.name = some entry :=
      findNamed_of_mem hnodup (hmem entry List.mem_cons_self)
    have hrest : ∀ e ∈ rest, e ∈ m.models := fun e he => hmem e (List.mem_cons_of_mem _ he)
    rw [placeAll, bind_eq_error_iff] at h
    rcases h with hplace | ⟨⟨r, built'⟩, hplace, h⟩
    · have hfault : m.LineFault entry error := lineFault_of_place [] entry _ built hentry hbuilt
        List.nodup_nil [] rfl ⟨rfl, .singleton entry⟩ hplace
      exact ⟨[], entry, rest, rfl, List.forall_mem_nil _, hfault⟩
    · obtain ⟨hr, hbuilt'⟩ := (place_spec [] entry _ built hentry hbuilt).1 r built' hplace
      rcases bind_eq_error_iff.mp h with h | ⟨_, -, hpure⟩
      · obtain ⟨before, start, after, rfl, hbefore, hfault⟩ := ih hrest built' hbuilt' h
        exact ⟨entry :: before, start, after, rfl,
          List.forall_mem_cons.mpr ⟨⟨r, hr⟩, hbefore⟩, hfault⟩
      · cases hpure

/-! ## Manifests -/

/-- The error that a manifest is refused with: the first name that occurred before, or else the
fault of the first model with a line at fault. -/
inductive Reports (m : Manifest) : CatalogError → Prop where
  | repeated {before after : List ModelEntry} {entry : ModelEntry}
      (hmodels : m.models = before ++ entry :: after)
      (hdistinct : (before.map (·.name)).Nodup) (hname : entry.name ∈ before.map (·.name)) :
      Reports m (.duplicateModel entry.name)
  | line {before after : List ModelEntry} {start : ModelEntry} {error : CatalogError}
      (hdistinct : m.names.Nodup) (hmodels : m.models = before ++ start :: after)
      (hbefore : ∀ other ∈ before, ∀ e, ¬ m.LineFault other e)
      (hfault : m.LineFault start error) : Reports m error

/-- A model with a fault of its own: its name is declared twice, or it extends a model that is not
declared, or itself through its ancestors, or its entry is not well-formed. -/
inductive AtFault (m : Manifest) (name : String) : Prop where
  | repeated (htwice : 2 ≤ m.names.count name)
  | unknown {parent : String} (hextends : m.Extends name parent) (hmissing : parent ∉ m.names)
  | cyclic (hcycle : Relation.TransGen m.Extends name name)
  | malformed {entry : ModelEntry} (hentry : entry ∈ m.models) (hname : entry.name = name)
      (hmalformed : ¬ entry.WellFormed)

end Manifest

/-- The model that an error of a manifest is about. -/
def CatalogError.subject : CatalogError → String
  | duplicateModel name => name
  | unknownParent name _ => name
  | model name _ => name

namespace Manifest

/-- A walk over declared models is one over their names. -/
theorem transGen_extends {m : Manifest} {child ancestor : ModelEntry} (hchild : child ∈ m.models)
    (h : Relation.TransGen m.Inherits child ancestor) :
    Relation.TransGen m.Extends child.name ancestor.name := by
  have hstep : ∀ {child next : ModelEntry}, child ∈ m.models → m.Inherits child next →
      m.Extends child.name next.name := by
    rintro child next hchild ⟨parent, hparent, hnext⟩
    rw [(of_findNamed hnext).2]
    exact ⟨child, hchild, rfl, hparent⟩
  induction h using Relation.TransGen.head_induction_on with
  | single h => exact .single (hstep hchild h)
  | head h _ ih =>
    obtain ⟨_, -, hnext⟩ := id h
    exact .head (hstep hchild h) (ih (of_findNamed hnext).1)

/-- The fault of a line is that of a model on it. -/
theorem LineFault.atFault {m : Manifest} (hnodup : m.names.Nodup) {start : ModelEntry}
    (hstart : start ∈ m.models) {error : CatalogError} (h : m.LineFault start error) :
    m.AtFault error.subject := by
  cases h with
  | unknown hline hlast hparent hmissing =>
    have hmem := hline.mem hstart (List.mem_of_getLast? hlast)
    exact .unknown ⟨_, hmem, rfl, hparent⟩ hmissing
  | cyclic hline _ hfirst hlast hback =>
    have hmem := hline.mem hstart (List.mem_append_right _ (List.mem_of_head? hfirst))
    have hwalk := reflTransGen_of_isChain hline.chain.right_of_append hfirst hlast
    exact .cyclic (transGen_extends hmem (.tail' hwalk (inherits_of_parent hnodup hmem hback)))
  | own hline _ _ _ hfault =>
    have hmem := hline.mem hstart (List.mem_append_right _ List.mem_cons_self)
    exact .malformed hmem rfl (not_wellFormed_of_fault hfault)

/-- The error of a manifest is about a model with a fault of its own. -/
theorem Reports.atFault {m : Manifest} {error : CatalogError} (h : m.Reports error) :
    m.AtFault error.subject := by
  cases h with
  | @repeated before after entry hmodels _ hname =>
    refine .repeated ?_
    have hcount : 0 < (before.map (·.name)).count entry.name := List.count_pos_iff.mpr hname
    rw [names, hmodels, List.map_append, List.map_cons, List.count_append, CatalogError.subject,
      List.count_cons_self]
    omega
  | line hdistinct hmodels _ hfault =>
    exact hfault.atFault hdistinct (hmodels ▸ List.mem_append_right _ List.mem_cons_self)

end Manifest

/-- The name that is found is the first one that occurred before. -/
theorem firstRepeated?_eq_some_iff {seen names : List String} {name : String} :
    firstRepeated? seen names = some name ↔ ∃ before after, names = before ++ name :: after ∧
      before.Nodup ∧ (∀ other ∈ before, other ∉ seen) ∧ (name ∈ before ∨ name ∈ seen) := by
  induction names generalizing seen with
  | nil => simp [firstRepeated?]
  | cons first rest ih =>
    by_cases hseen : first ∈ seen
    · rw [firstRepeated?, if_pos hseen, Option.some.injEq]
      constructor
      · rintro rfl
        exact ⟨[], rest, rfl, .nil, List.forall_mem_nil _, .inr hseen⟩
      · rintro ⟨before, after, heq, -, hnew, -⟩
        rcases List.append_eq_cons_iff.mp heq.symm with ⟨-, h⟩ | ⟨more, rfl, -⟩
        · exact (List.cons.inj h).1.symm
        · exact absurd hseen (hnew first List.mem_cons_self)
    · rw [firstRepeated?, if_neg hseen, ih]
      constructor
      · rintro ⟨before, after, rfl, hnodup, hnew, hname⟩
        refine ⟨first :: before, after, rfl, List.nodup_cons.mpr ⟨?_, hnodup⟩, ?_, ?_⟩
        · exact fun h => hnew first h List.mem_cons_self
        · exact List.forall_mem_cons.mpr ⟨hseen, fun other h hother =>
            hnew other h (List.mem_cons_of_mem _ hother)⟩
        · simpa [or_assoc, or_left_comm] using hname
      · rintro ⟨before, after, heq, hnodup, hnew, hname⟩
        rcases List.append_eq_cons_iff.mp heq.symm with ⟨rfl, h⟩ | ⟨more, rfl, rfl⟩
        · obtain ⟨rfl, -⟩ := List.cons.inj h
          exact absurd (hname.resolve_left List.not_mem_nil) hseen
        · obtain ⟨hfirst, hnodup⟩ := List.nodup_cons.mp hnodup
          refine ⟨more, after, rfl, hnodup, fun other h => ?_, ?_⟩
          · rw [List.mem_cons, not_or]
            exact ⟨ne_of_mem_of_not_mem h hfirst, hnew other (List.mem_cons_of_mem _ h)⟩
          · simpa [or_assoc, or_left_comm] using hname

namespace Catalog

open Manifest

/-- A manifest in which a name is repeated reports the first one that is. -/
theorem firstRepeated?_names_eq_some_iff {m : Manifest} {name : String} :
    firstRepeated? [] m.names = some name ↔ ∃ before entry after,
      m.models = before ++ entry :: after ∧ (before.map (·.name)).Nodup ∧
        entry.name ∈ before.map (·.name) ∧ name = entry.name := by
  rw [firstRepeated?_eq_some_iff, Manifest.names]
  constructor
  · rintro ⟨_, _, heq, hnodup, -, hname⟩
    obtain ⟨before, _, hmodels, rfl, htail⟩ := List.map_eq_append_iff.mp heq
    obtain ⟨entry, after, rfl, rfl, rfl⟩ := List.map_eq_cons_iff.mp htail
    exact ⟨before, entry, after, hmodels, hnodup, hname.resolve_right List.not_mem_nil, rfl⟩
  · rintro ⟨before, entry, after, hmodels, hnodup, hname, rfl⟩
    exact ⟨_, after.map (·.name), by rw [hmodels, List.map_append, List.map_cons], hnodup,
      fun _ _ => List.not_mem_nil, .inl hname⟩

/-- A manifest that is refused is refused with the error that it reports. -/
theorem reports_of_ofManifest {m : Manifest} {error : CatalogError}
    (h : ofManifest (τ := τ) m = .error error) : m.Reports error := by
  unfold ofManifest at h
  split at h
  · rename_i name hrepeated
    cases h
    obtain ⟨before, entry, after, hmodels, hdistinct, hname, rfl⟩ :=
      firstRepeated?_names_eq_some_iff.mp hrepeated
    exact .repeated hmodels hdistinct hname
  · rename_i hnone
    have hnodup : m.names.Nodup := (firstRepeated?_eq_none_iff.mp hnone).1
    obtain ⟨before, start, after, hmodels, hbefore, hfault⟩ :=
      lineFault_of_placeAll hnodup m.models _ [] records_nil (map_eq_error_iff.mp h)
    refine .line hnodup hmodels (fun other hother e => ?_) hfault
    obtain ⟨r, hr⟩ := hbefore other hother
    exact hr.not_lineFault hnodup (hmodels ▸ List.mem_append_left _ hother)

/-- A name that occurred before makes names repeat. -/
theorem not_nodup_of_repeated {m : Manifest} {before after : List ModelEntry} {entry : ModelEntry}
    (hmodels : m.models = before ++ entry :: after) (hname : entry.name ∈ before.map (·.name)) :
    ¬ m.names.Nodup := by
  intro hnodup
  rw [Manifest.names, hmodels, List.map_append, List.map_cons, List.nodup_append] at hnodup
  exact hnodup.2.2 _ hname _ List.mem_cons_self rfl

/-- A manifest reports at most one error. -/
theorem reports_unique {m : Manifest} {error error' : CatalogError} (h : m.Reports error)
    (h' : m.Reports error') : error = error' := by
  cases h with
  | repeated hmodels hdistinct hname =>
    cases h' with
    | repeated hmodels' hdistinct' hname' =>
      have hfirst := firstRepeated?_names_eq_some_iff.mpr
        ⟨_, _, _, hmodels, hdistinct, hname, rfl⟩
      have hfirst' := firstRepeated?_names_eq_some_iff.mpr
        ⟨_, _, _, hmodels', hdistinct', hname', rfl⟩
      rw [Option.some.inj (hfirst.symm.trans hfirst')]
    | line hnodup _ _ _ => exact absurd hnodup (not_nodup_of_repeated hmodels hname)
  | line hnodup hmodels hbefore hfault =>
    cases h' with
    | repeated hmodels' _ hname' => exact absurd hnodup (not_nodup_of_repeated hmodels' hname')
    | line _ hmodels' hbefore' hfault' =>
      obtain rfl := eq_of_first (p := fun start => ∃ e, m.LineFault start e)
        (hmodels.symm.trans hmodels') (fun other h => not_exists.mpr (hbefore other h))
        (fun other h => not_exists.mpr (hbefore' other h)) ⟨_, hfault⟩ ⟨_, hfault'⟩
      exact hfault.unique hnodup (hmodels ▸ List.mem_append_right _ List.mem_cons_self) hfault'

/-- A manifest is refused exactly with the error that it reports, and that error is about a model
with a fault of its own. -/
theorem ofManifest_eq_error_iff (m : Manifest) (error : CatalogError) :
    (ofManifest (τ := τ) m = .error error ↔ m.Reports error) ∧
      (ofManifest (τ := τ) m = .error error → m.AtFault error.subject) := by
  refine ⟨⟨reports_of_ofManifest, fun h => ?_⟩, fun h => (reports_of_ofManifest h).atFault⟩
  cases hc : ofManifest (τ := τ) m with
  | error error' => rw [reports_unique h (reports_of_ofManifest hc)]
  | ok c =>
    obtain ⟨hnodup, hall⟩ := resolves_of_ofManifest hc
    cases h with
    | repeated hmodels _ hname => exact absurd hnodup (not_nodup_of_repeated hmodels hname)
    | line _ hmodels _ hfault =>
      have hstart := hmodels ▸ List.mem_append_right _ List.mem_cons_self
      obtain ⟨r, -, hr⟩ := exists_partner_of_mem_left hall hstart
      exact absurd hfault (hr.not_lineFault hnodup hstart)

/-- A poultry yard with several faults: a hen comes from an egg and an egg from a hen, a chick,
declared before them, has a field of no kind, and a goose extends a model that is not declared. -/
def poultry : Manifest :=
  ⟨[⟨"yard", none, [⟨"size", "int", true, none, []⟩]⟩,
    ⟨"chick", some "hen", [⟨"down", "color", false, none, []⟩]⟩,
    ⟨"hen", some "egg", []⟩, ⟨"egg", some "hen", []⟩, ⟨"goose", some "bird", []⟩]⟩

/-- The yard is refused for the cycle above the chick, which the hen is the first to close. -/
theorem reports_poultry :
    poultry.Reports (.model "hen" (.cyclicInheritance "hen" ["hen", "egg", "hen"])) ∧
      poultry.AtFault "hen" := by
  have hrefused : ofManifest (τ := Empty) poultry =
      .error (.model "hen" (.cyclicInheritance "hen" ["hen", "egg", "hen"])) := by
    cbv
  exact ⟨(ofManifest_eq_error_iff poultry _).1.mp hrefused,
    (ofManifest_eq_error_iff poultry _).2 hrefused⟩

end Catalog
end ModelSchema
