import ModelSchema.Proofs.Manifest.Inheritance
import ModelSchema.Proofs.Model.Family

/-!
# Registries over whole histories

Registries come about in histories of declarations: each declaration is written step by step, with
registries that were obtained before as parents, and is then resolved.  Resolving checks the own
fields only.  What it says of them nevertheless holds of all fields, since the parents were resolved
before, and nothing else ever gets into a registry.

Main results:

- Theorem `Declaration.sound_of_build`: sound parents make for a sound registry.
- Theorems `Family.sound_of_buildOn` and `Manifest.Resolves.sound`: types of families and models of
  manifests have sound registries.
- Theorem `Workbench.Step.sound`: one step of a history.
- Theorem `Workbench.registry_of_history`: the registries of any history.
-/

namespace ModelSchema

open Relation

variable {τ : Type}

/-! ## Sound registries -/

/-- A registry that names no field twice and has a candidate for each target. -/
structure Registry.Sound (r : Registry τ) : Prop where
  nodup : r.fieldNames.Nodup
  candidates : ∀ field f target, (field, f) ∈ r.fields → f.shape.target? = some target →
    target.toList ≠ []

/-- A shape that does not lack candidates has one for its target. -/
theorem Shape.toList_ne_nil {shape : Shape τ} (h : shape.lacksCandidates = false)
    {target : Target τ} (htarget : shape.target? = some target) : target.toList ≠ [] := by
  rw [lacksCandidates, htarget, Option.any_some, Target.isEmpty] at h
  exact List.isEmpty_eq_false_iff.mp h

/-- A declaration with sound parents resolves to a sound registry. -/
theorem Declaration.sound_of_build {d : Declaration τ} {name : String} {key : ModelKey τ}
    {r : Registry τ} (hparents : ∀ parent ∈ d.parents, parent.Sound)
    (h : d.build name key = .ok r) : r.Sound := by
  refine ⟨nodup_fieldNames_of_build h, fun field f target hfield htarget => ?_⟩
  obtain ⟨-, -, hown, -⟩ := build_eq_ok_iff.mp h
  rcases mem_fields_of_build h hfield with hmem | ⟨parent, hparent, hmem⟩
  · exact Shape.toList_ne_nil (hown _ hmem) htarget
  · exact (hparents parent hparent).candidates field f target hmem htarget

namespace Registry

variable {r : Registry τ}

/-- Under each name of a sound registry stands its only field of that name. -/
theorem Sound.exists_get? (h : r.Sound) {name : String} (hname : name ∈ r.fieldNames) :
    ∃ f, r.get? name = some f ∧ ∀ g, (name, g) ∈ r.fields ↔ g = f := by
  obtain ⟨f, hf⟩ := OrderedMap.exists_value?_of_name_mem hname
  refine ⟨f, hf, fun g => ?_⟩
  rw [← OrderedMap.value?_eq_some_iff h.nodup, hf, Option.some.injEq, eq_comm]

/-- The required names are those of the required fields, in the order of all names. -/
theorem Sound.requiredNames_eq (h : r.Sound) :
    r.requiredNames = r.fieldNames.filter fun name => (r.get? name).any (·.required) := by
  rw [requiredNames, fieldNames, OrderedMap.names, List.filter_map]
  congr 1
  refine List.filter_congr fun entry hentry => ?_
  have hget : r.get? entry.1 = some entry.2 :=
    (OrderedMap.value?_eq_some_iff h.nodup).mpr hentry
  simp [hget]

end Registry

/-! ## Families and manifests -/

namespace Family

variable {load : τ → Except LoadError (Registry τ)} {actions : List (Action τ)}
  {d d' : Declaration τ}

/-- The parents of a declaration that was carried out were loaded. -/
theorem forall_parents_of_carryOut {P : Registry τ → Prop}
    (hload : ∀ parent r, Action.inherit parent ∈ actions → load parent = .ok r → P r)
    (hd : ∀ parent ∈ d.parents, P parent) (h : carryOut load actions d = .ok d') :
    ∀ parent ∈ d'.parents, P parent := by
  induction actions generalizing d with
  | nil =>
    obtain rfl : d = d' := by simpa [carryOut] using h
    exact hd
  | cons action rest ih =>
    have hrest : ∀ {d}, (∀ parent ∈ d.parents, P parent) → carryOut load rest d = .ok d' →
        ∀ parent ∈ d'.parents, P parent :=
      ih fun parent r hparent => hload parent r (List.mem_cons_of_mem _ hparent)
    cases action with
    | inherit parent =>
      rw [carryOut] at h
      cases hparent : load parent with
      | ok r =>
        simp only [hparent] at h
        refine hrest ?_ h
        rw [Declaration.inherit, List.forall_mem_append, List.forall_mem_singleton]
        exact ⟨hd, hload parent r List.mem_cons_self hparent⟩
      | error cause =>
        cases cause with
        | invalid error =>
          simp only [hparent] at h
          exact hrest (d := d.fail error) hd h
        | aborted message => simp [hparent] at h
    | field name f => exact hrest (d := d.field name f) hd h
    | fail error => exact hrest (d := d.fail error) hd h
    | abort message => simp [carryOut] at h

/-- A type is built to a sound registry, whatever is under way. -/
theorem sound_of_buildOn [DecidableEq τ] {family : Family τ} {stack : List τ} {t : τ}
    {r : Registry τ} (h : family.buildOn stack t = .ok r) : r.Sound := by
  induction stack, t using stack_induction family generalizing r with
  | cyclic stack t hmem => exact absurd hmem (buildOn_eq_ok_iff.mp h).1
  | step stack t hmem ih =>
    obtain ⟨-, d, hcarry, hbuild⟩ := buildOn_eq_ok_iff.mp h
    refine Declaration.sound_of_build (forall_parents_of_carryOut ?_ ?_ hcarry) hbuild
    · exact fun parent p _ hp => ih parent hp
    · simp [Declaration.empty]

end Family

/-- A model of a manifest resolves to a sound registry. -/
theorem Manifest.Resolves.sound {m : Manifest} {entry : ModelEntry} {r : Registry τ}
    (h : m.Resolves entry r) : r.Sound := by
  induction h with
  | root _ hresolve =>
    obtain ⟨fields, -, hbuild⟩ := resolve_eq_ok_iff.mp hresolve
    exact Declaration.sound_of_build (by simp) hbuild
  | child _ _ _ hresolve ih =>
    obtain ⟨fields, -, hbuild⟩ := resolve_eq_ok_iff.mp hresolve
    exact Declaration.sound_of_build (by simpa using ih) hbuild

/-- The registries of the catalog of a manifest are sound. -/
theorem Catalog.sound_of_ofManifest {m : Manifest} {c : Catalog τ} (hc : ofManifest m = .ok c) :
    ∀ r ∈ c.models, r.Sound := by
  intro r hr
  obtain ⟨entry, -, hresolves⟩ := exists_partner_of_mem_right (resolves_of_ofManifest hc).2 hr
  exact hresolves.sound

/-! ## Models that a compilation meets -/

namespace Scope

variable [DecidableEq τ]

/-- A model has a field that refers to another model. -/
def LeadsTo (scope : Scope τ) (r next : Registry τ) : Prop :=
  ∃ field key, r.Mentions field key ∧ scope.resolve r.name field key = .ok next

/-- In a family and the catalog of a manifest, references lead to sound registries. -/
theorem sound_of_resolve {scope : Scope τ}
    (hcatalog : ∀ c, scope.catalog = some c → ∃ m, Catalog.ofManifest m = .ok c)
    {model field : String} {key : ModelKey τ} {next : Registry τ}
    (h : scope.resolve model field key = .ok next) : next.Sound := by
  cases key with
  | typed t => exact Family.sound_of_buildOn (mapError_eq_ok_iff.mp h)
  | named name =>
    obtain ⟨family, catalog⟩ := scope
    cases catalog with
    | none => cases h
    | some c =>
      obtain ⟨m, hc⟩ := hcatalog c rfl
      simp only [resolve, find?, models, Option.map_some, Option.getD_some] at h
      split at h
      · rename_i found hfound
        cases h
        exact Catalog.sound_of_ofManifest hc _ (List.mem_of_find?_eq_some hfound)
      · cases h

/-- A compilation of a sound registry meets sound registries only. -/
theorem sound_of_leadsTo {scope : Scope τ}
    (hcatalog : ∀ c, scope.catalog = some c → ∃ m, Catalog.ofManifest m = .ok c)
    {r next : Registry τ} (hr : r.Sound) (h : ReflTransGen scope.LeadsTo r next) : next.Sound := by
  induction h with
  | refl => exact hr
  | tail _ hstep _ =>
    obtain ⟨field, key, -, hresolve⟩ := hstep
    exact sound_of_resolve hcatalog hresolve

end Scope

/-- A target with candidates has the fragment of its only candidate, or it has two or more
candidates and is a choice between their fragments. -/
theorem Target.fragment_of_ne_nil {t : Target τ} (h : t.toList ≠ []) :
    (∃ candidate, t.toList = [candidate] ∧
      ∀ model, t.fragment model = candidate.fragment model) ∨
    2 ≤ t.toList.length ∧ ∀ model, t.fragment model =
      (branches model t.toList).map fun all => [("oneOf", .array all)] := by
  match hlist : t.toList with
  | [] => exact absurd hlist h
  | [candidate] =>
    refine .inl ⟨candidate, rfl, fun model => ?_⟩
    rw [Target.fragment, hlist]
  | first :: second :: rest =>
    refine .inr ⟨by simp, fun model => ?_⟩
    rw [Target.fragment, hlist]

/-! ## Histories -/

/-- Declarations that are being written, and the registries that were obtained. -/
structure Workbench (τ : Type) where
  drafts : List (Declaration τ)
  obtained : List (Registry τ)

namespace Workbench

/-- A step of writing a declaration: it gets a registry that was obtained as a further parent, or a
field, or an error is recorded in it. -/
inductive Writes (obtained : List (Registry τ)) (d : Declaration τ) : Declaration τ → Prop where
  | inherit {parent : Registry τ} (hparent : parent ∈ obtained) :
      Writes obtained d (d.inherit parent)
  | field (name : String) (f : Field τ) : Writes obtained d (d.field name f)
  | fail (error : ModelError) : Writes obtained d (d.fail error)

/-- A step of a history: a declaration is begun, written on, or resolved under some name and key,
whereupon its registry is obtained or the declaration is lost. -/
inductive Step : Workbench τ → Workbench τ → Prop where
  | begin {drafts : List (Declaration τ)} {obtained : List (Registry τ)} :
      Step ⟨drafts, obtained⟩ ⟨drafts ++ [.empty], obtained⟩
  | write {before after : List (Declaration τ)} {d d' : Declaration τ}
      {obtained : List (Registry τ)} (hwrites : Writes obtained d d') :
      Step ⟨before ++ d :: after, obtained⟩ ⟨before ++ d' :: after, obtained⟩
  | resolve {before after : List (Declaration τ)} {d : Declaration τ}
      {obtained : List (Registry τ)} {name : String} {key : ModelKey τ} {r : Registry τ}
      (hbuild : d.build name key = .ok r) :
      Step ⟨before ++ d :: after, obtained⟩ ⟨before ++ after, obtained ++ [r]⟩
  | refuse {before after : List (Declaration τ)} {d : Declaration τ}
      {obtained : List (Registry τ)} {name : String} {key : ModelKey τ} {error : ModelError}
      (hbuild : d.build name key = .error error) :
      Step ⟨before ++ d :: after, obtained⟩ ⟨before ++ after, obtained⟩

/-- What was obtained is sound, and so are the parents of all declarations. -/
structure Sound (w : Workbench τ) : Prop where
  obtained : ∀ r ∈ w.obtained, r.Sound
  parents : ∀ d ∈ w.drafts, ∀ parent ∈ d.parents, parent.Sound

theorem sound_empty : Sound (⟨[], []⟩ : Workbench τ) := ⟨by simp, by simp⟩

/-- A declaration that is written on keeps sound parents. -/
theorem Writes.sound_parents {obtained : List (Registry τ)} {d d' : Declaration τ}
    (h : Writes obtained d d') (hobtained : ∀ r ∈ obtained, r.Sound)
    (hd : ∀ parent ∈ d.parents, parent.Sound) : ∀ parent ∈ d'.parents, parent.Sound := by
  cases h with
  | inherit hparent =>
    rw [Declaration.inherit, List.forall_mem_append, List.forall_mem_singleton]
    exact ⟨hd, hobtained _ hparent⟩
  | field name f => exact hd
  | fail error => exact hd

/-- A step keeps everything sound. -/
theorem Step.sound {w w' : Workbench τ} (h : Step w w') (hw : w.Sound) : w'.Sound := by
  obtain ⟨hobtained, hparents⟩ := hw
  cases h with
  | begin =>
    refine ⟨hobtained, ?_⟩
    rw [List.forall_mem_append, List.forall_mem_singleton]
    exact ⟨hparents, by simp [Declaration.empty]⟩
  | write hwrites =>
    rw [List.forall_mem_append, List.forall_mem_cons] at hparents
    refine ⟨hobtained, ?_⟩
    rw [List.forall_mem_append, List.forall_mem_cons]
    exact ⟨hparents.1, hwrites.sound_parents hobtained hparents.2.1, hparents.2.2⟩
  | resolve hbuild =>
    rw [List.forall_mem_append, List.forall_mem_cons] at hparents
    constructor
    · rw [List.forall_mem_append, List.forall_mem_singleton]
      exact ⟨hobtained, Declaration.sound_of_build hparents.2.1 hbuild⟩
    · rw [List.forall_mem_append]
      exact ⟨hparents.1, hparents.2.2⟩
  | refuse hbuild =>
    rw [List.forall_mem_append, List.forall_mem_cons] at hparents
    refine ⟨hobtained, ?_⟩
    rw [List.forall_mem_append]
    exact ⟨hparents.1, hparents.2.2⟩

/-- A history keeps everything sound. -/
theorem sound_of_history {w : Workbench τ} (h : ReflTransGen Step ⟨[], []⟩ w) : w.Sound := by
  induction h with
  | refl => exact sound_empty
  | tail _ hstep ih => exact hstep.sound ih

/-- Whatever a declaration over registries that were obtained resolves to can be obtained, too. -/
theorem history_of_build {obtained : List (Registry τ)} {d : Declaration τ} {name : String}
    {key : ModelKey τ} {r : Registry τ} (hparents : ∀ parent ∈ d.parents, parent ∈ obtained)
    (h : d.build name key = .ok r) :
    ReflTransGen Step ⟨[], obtained⟩ ⟨[], obtained ++ [r]⟩ := by
  obtain ⟨herror, -⟩ := Declaration.build_eq_ok_iff.mp h
  obtain ⟨parents, own, error⟩ := d
  obtain rfl : error = none := herror
  -- The parents are added one by one, and after them the fields.
  have hinherit : ReflTransGen Step ⟨[.empty], obtained⟩ ⟨[⟨parents, [], none⟩], obtained⟩ := by
    clear h
    induction parents using List.reverseRecOn with
    | nil => exact .refl
    | append_singleton parents last ih =>
      rw [List.forall_mem_append, List.forall_mem_singleton] at hparents
      exact (ih hparents.1).tail (@Step.write _ [] [] _ _ _ (.inherit hparents.2))
  have hfields : ReflTransGen Step ⟨[⟨parents, [], none⟩], obtained⟩
      ⟨[⟨parents, own, none⟩], obtained⟩ := by
    clear h hparents hinherit
    induction own using List.reverseRecOn with
    | nil => exact .refl
    | append_singleton own last ih =>
      exact ih.tail (@Step.write _ [] [] _ _ _ (.field last.1 last.2))
  have hbegin : Step ⟨[], obtained⟩ ⟨[.empty], obtained⟩ := .begin
  exact ((ReflTransGen.head hbegin hinherit).trans hfields).tail (@Step.resolve _ [] [] _ _ _ _ _ h)

/-- A registry that was obtained in some history names no field twice and has a candidate for each
target; under each of its names, and under no other, stands its only field of that name; and the
required names are those of the required fields, in order.  When it is compiled, with any family and
the catalog of any manifest, each target of each model that is met is that of its only candidate or
a choice between two or more. -/
theorem registry_of_history [DecidableEq τ] {w : Workbench τ}
    (hhistory : ReflTransGen Step ⟨[], []⟩ w) {r : Registry τ} (hr : r ∈ w.obtained) :
    r.fieldNames.Nodup ∧
    (∀ field f target, (field, f) ∈ r.fields → f.shape.target? = some target →
      target.toList ≠ []) ∧
    (∀ name ∈ r.fieldNames, ∃ f, r.get? name = some f ∧ ∀ g, (name, g) ∈ r.fields ↔ g = f) ∧
    (∀ name ∉ r.fieldNames, r.get? name = none) ∧
    r.requiredNames = r.fieldNames.filter (fun name => (r.get? name).any (·.required)) ∧
    ∀ scope : Scope τ, (∀ c, scope.catalog = some c → ∃ m, Catalog.ofManifest m = .ok c) →
      ∀ next, ReflTransGen scope.LeadsTo r next → ∀ field f target, (field, f) ∈ next.fields →
        f.shape.target? = some target →
          (∃ candidate, target.toList = [candidate] ∧
            ∀ model, target.fragment model = candidate.fragment model) ∨
          2 ≤ target.toList.length ∧ ∀ model, target.fragment model =
            (branches model target.toList).map fun all => [("oneOf", .array all)] := by
  have hsound : r.Sound := (sound_of_history hhistory).obtained r hr
  refine ⟨hsound.nodup, hsound.candidates, fun name => hsound.exists_get?, fun name hname => ?_,
    hsound.requiredNames_eq, fun scope hcatalog next hnext field f target hfield htarget => ?_⟩
  · exact OrderedMap.value?_eq_none_iff.mpr hname
  · have hmet : next.Sound := Scope.sound_of_leadsTo hcatalog hsound hnext
    exact Target.fragment_of_ne_nil (hmet.candidates field f target hfield htarget)

/-- A page has a title. -/
def page : Registry Empty :=
  ⟨"page", .named "page", [("title", ⟨.scalar .string, true, []⟩)]⟩

/-- Words and numbers. -/
def words : Target Empty := .candidates [.primitive .string, .primitive .int]

/-- An article is a page with a text that consists of words and numbers. -/
def article : Registry Empty :=
  ⟨"article", .named "article", page.fields ++ [("text", ⟨.list words, true, []⟩)]⟩

/-- A review is a page and an article, with a title that may be missing and a mark. -/
def review : Registry Empty :=
  ⟨"review", .named "review",
    [("title", ⟨.scalar .string, false, []⟩), ("text", ⟨.list words, true, []⟩),
      ("mark", ⟨.scalar .int, true, []⟩)]⟩

/-- Pages are extended by articles, and both by reviews. -/
theorem history_review : ReflTransGen Step ⟨[], []⟩ ⟨[], [page, article, review]⟩ := by
  have hpage : Declaration.build ⟨[], page.fields, none⟩ "page" (.named "page") = .ok page := by
    rfl
  have harticle : Declaration.build ⟨[page], article.fields.drop 1, none⟩ "article"
      (.named "article") = .ok article := by
    rfl
  have hreview : Declaration.build ⟨[page, article, page],
      [("mark", ⟨.scalar .int, true, []⟩), ("title", ⟨.scalar .string, false, []⟩)], none⟩
      "review" (.named "review") = .ok review := by
    rfl
  have hpages : ReflTransGen Step ⟨[], []⟩ ⟨[], [page]⟩ := history_of_build (by simp) hpage
  have harticles : ReflTransGen Step ⟨[], [page]⟩ ⟨[], [page, article]⟩ :=
    history_of_build (by simp) harticle
  have hreviews : ReflTransGen Step ⟨[], [page, article]⟩ ⟨[], [page, article, review]⟩ :=
    history_of_build (by simp) hreview
  exact (hpages.trans harticles).trans hreviews

/-- A review that has its parents in a diamond, and one of them twice, still names no field twice,
and its text is a choice between words and numbers. -/
theorem requiredNames_review :
    review.fieldNames.Nodup ∧ review.requiredNames = ["text", "mark"] ∧
      ∀ model, words.fragment model =
        (branches model words.toList).map fun all => [("oneOf", .array all)] := by
  obtain ⟨hnodup, -, -, -, hrequired, hmet⟩ := registry_of_history history_review
    (show review ∈ [page, article, review] by simp)
  refine ⟨hnodup, hrequired.trans (by decide), ?_⟩
  have htext := hmet ⟨.none, none⟩ nofun review .refl "text" ⟨.list words, true, []⟩ words
    (by simp [review]) rfl
  rcases htext with ⟨candidate, honly, -⟩ | ⟨-, hchoice⟩
  · cases honly
  · exact hchoice

end Workbench
end ModelSchema
