import ModelSchema.Proofs.Json.Pointer
import ModelSchema.Proofs.Schema.Draft4.Assembled
import ModelSchema.Schema.Violation

/-!
# Violations and the fields they concern

However deep in a field a document fails, the violation is put down to that field: its pointer
starts with the name of the field, in whatever way that has to be escaped.  Only what the document
itself lacks is put down to the name that is missing.

Main results:

- Theorem `Violation.field_ofFailure_under`: what fails below a member concerns the member.
- Theorem `Registry.mem_fields_assemble_iff`: the fields that violations of a model concern.
- Theorem `Catalog.fields_of_compileNamed`: violations of the documents of a catalog.
-/

namespace ModelSchema

variable {τ : Type}

open Draft4

/-! ## Fields of violations -/

/-- What fails below a member of a document concerns the member, also where some value within lacks
a member of its own. -/
theorem Violation.field_ofFailure_under (name : String) (inner : Failure) :
    (ofFailure (inner.under name)).field = some name := by
  have hfirst := JsonPointer.firstSegment?_render (name :: inner.path)
  simpa [ofFailure, Failure.under] using hfirst

/-- What a document lacks is the field itself. -/
theorem Violation.field_ofFailure_lacking (name : String) :
    (ofFailure (.lacking name)).field = some name :=
  rfl

/-- What fails in the document itself, and is not that it lacks a member, concerns no field. -/
theorem Violation.field_ofFailure_here (keyword message : String) :
    (ofFailure (.here keyword message)).field = none := by
  rfl

namespace Violations

/-- Putting in a name adds that name and no other. -/
theorem mem_insertName {name other : String} {names : List String} :
    other ∈ insertName name names ↔ other = name ∨ other ∈ names := by
  induction names with
  | nil => simp [insertName]
  | cons first rest ih =>
    rw [insertName]
    split_ifs with hless heq
    · exact List.mem_cons
    · simp [heq]
    · rw [List.mem_cons, ih, List.mem_cons]
      exact or_left_comm

/-- The fields of violations are those that some violation concerns. -/
theorem mem_fields {violations : List Violation} {field : String} :
    field ∈ fields violations ↔ ∃ v ∈ violations, v.field = some field := by
  have hinsert : ∀ names : List String, field ∈ names.foldr insertName [] ↔ field ∈ names := by
    intro names
    induction names with
    | nil => rfl
    | cons name rest ih => rw [List.foldr_cons, mem_insertName, ih, List.mem_cons]
  rw [fields, hinsert, List.mem_filterMap]

end Violations

/-! ## Fields of a model -/

/-- A required field that an object lacks. -/
def Registry.Lacks (r : Registry τ) (members : Json.Members) (field : String) : Prop :=
  field ∈ r.requiredNames ∧ field ∉ OrderedMap.names members

/-- A field of which an object has a value that the property of the field does not admit. -/
def Registry.Refuses (r : Registry τ) (schema : Json) (members : Json.Members) (field : String) :
    Prop :=
  field ∈ r.fieldNames ∧ ∃ value fragment, OrderedMap.value? members field = some value ∧
    schema.property? field = some fragment ∧ isValid fragment value = false

namespace Registry

variable {r : Registry τ} {properties : OrderedMap Json} {members : Json.Members}

/-- The document of a model has one property for each field. -/
theorem exists_property?_iff (hnames : OrderedMap.names properties = r.fieldNames)
    {field : String} :
    (∃ fragment, (Json.object (r.assemble properties)).property? field = some fragment) ↔
      field ∈ r.fieldNames := by
  rw [property?_assemble, ← Option.isSome_iff_exists, ← hnames]
  exact OrderedMap.has_iff properties field

section Fields

variable (hnodup : r.fieldNames.Nodup) (hnames : OrderedMap.names properties = r.fieldNames)
  {field : String}

include hnodup hnames

/-- The property of a field is the one that is listed under its name. -/
theorem property?_eq_some_iff {property : Json} :
    (Json.object (r.assemble properties)).property? field = some property ↔
      (field, property) ∈ properties := by
  rw [property?_assemble]
  exact OrderedMap.value?_eq_some_iff (hnames ▸ hnodup)

/-- A property does not admit a value if the value fails under it. -/
theorem refuses_assemble_iff :
    r.Refuses (.object (r.assemble properties)) members field ↔
      ∃ property value inner, (field, property) ∈ properties ∧
        OrderedMap.value? members field = some value ∧ inner ∈ failures property value := by
  have hinvalid : ∀ property value, isValid property value = false ↔
      ∃ inner, inner ∈ failures property value := by
    intro property value
    rw [← Bool.not_eq_true, isValid_iff, List.eq_nil_iff_forall_not_mem, not_forall_not]
  simp only [Refuses, hinvalid, property?_eq_some_iff hnodup hnames]
  constructor
  · rintro ⟨-, value, property, hvalue, hmem, inner, hinner⟩
    exact ⟨property, value, inner, hmem, hvalue, hinner⟩
  · rintro ⟨property, value, inner, hmem, hvalue, hinner⟩
    exact ⟨hnames ▸ OrderedMap.name_mem_of_mem hmem, value, property, hvalue, hmem, inner, hinner⟩

variable (hfree : ReferenceFree (.object (r.assemble properties)))

include hfree

/-- A failure of an object concerns a field that the object lacks or whose value is not admitted. -/
theorem exists_field_of_mem_failures {f : Failure}
    (hf : f ∈ failures (.object (r.assemble properties)) (.object members)) :
    ∃ field, (Violation.ofFailure f).field = some field ∧
      (r.Lacks members field ∨ r.Refuses (.object (r.assemble properties)) members field) := by
  rcases (mem_failures_assemble_iff hfree).mp hf with
    ⟨name, property, value, inner, hproperty, hvalue, hinner, rfl⟩ | ⟨name, hname, hlacks, rfl⟩
  · exact ⟨name, Violation.field_ofFailure_under name inner,
      .inr ((refuses_assemble_iff hnodup hnames).mpr
        ⟨property, value, inner, hproperty, hvalue, hinner⟩)⟩
  · exact ⟨name, Violation.field_ofFailure_lacking name, .inl ⟨hname, hlacks⟩⟩

/-- A field that an object lacks, or whose value is not admitted, is what some failure concerns. -/
theorem exists_mem_failures_of_field
    (hfield : r.Lacks members field ∨ r.Refuses (.object (r.assemble properties)) members field) :
    ∃ f ∈ failures (.object (r.assemble properties)) (.object members),
      (Violation.ofFailure f).field = some field := by
  rcases hfield with ⟨hname, hlacks⟩ | hrefuses
  · have hmem := (mem_failures_assemble_iff hfree).mpr (.inr ⟨field, hname, hlacks, rfl⟩)
    exact ⟨_, hmem, Violation.field_ofFailure_lacking field⟩
  · obtain ⟨property, value, inner, hproperty, hvalue, hinner⟩ :=
      (refuses_assemble_iff hnodup hnames).mp hrefuses
    have hmem := (mem_failures_assemble_iff hfree).mpr
      (.inl ⟨field, property, value, inner, hproperty, hvalue, hinner, rfl⟩)
    exact ⟨_, hmem, Violation.field_ofFailure_under field inner⟩

/-- An object conforms to a model if it has all required fields, and if the property of each field
that it has admits the value. -/
theorem failures_eq_nil_iff :
    failures (.object (r.assemble properties)) (.object members) = [] ↔
      (∀ field ∈ r.requiredNames, field ∈ OrderedMap.names members) ∧
        ∀ field ∈ r.fieldNames, ∀ value, OrderedMap.value? members field = some value →
          ∃ fragment, (Json.object (r.assemble properties)).property? field = some fragment ∧
            isValid fragment value = true := by
  simp only [property?_eq_some_iff hnodup hnames]
  rw [← isValid_iff, isValid_assemble_iff hfree]
  constructor
  · rintro ⟨_, heq, hrequired, hvalid⟩
    cases heq
    refine ⟨hrequired, fun field hfield value hvalue => ?_⟩
    obtain ⟨fragment, hfragment⟩ := OrderedMap.exists_mem_of_name_mem (hnames ▸ hfield)
    exact ⟨fragment, hfragment, hvalid field fragment hfragment value hvalue⟩
  · rintro ⟨hrequired, hvalid⟩
    refine ⟨members, rfl, hrequired, fun field property hmem value hvalue => ?_⟩
    have hfield : field ∈ r.fieldNames := hnames ▸ OrderedMap.name_mem_of_mem hmem
    obtain ⟨fragment, hfragment, hadmits⟩ := hvalid field hfield value hvalue
    exact OrderedMap.eq_of_mem_of_mem (hnames ▸ hnodup) hfragment hmem ▸ hadmits

/-- The violations of an object concern the fields that it lacks and those whose values are not
admitted. -/
theorem mem_fields_assemble_iff :
    field ∈ Violations.fields ((failures (.object (r.assemble properties)) (.object members)).map
        .ofFailure) ↔
      r.Lacks members field ∨ r.Refuses (.object (r.assemble properties)) members field := by
  rw [Violations.mem_fields]
  constructor
  · rintro ⟨v, hv, hfield⟩
    obtain ⟨f, hf, rfl⟩ := List.mem_map.mp hv
    obtain ⟨other, hother, hcause⟩ := exists_field_of_mem_failures hnodup hnames hfree hf
    rw [hfield, Option.some.injEq] at hother
    exact hother ▸ hcause
  · intro hcause
    obtain ⟨f, hf, hfield⟩ := exists_mem_failures_of_field hnodup hnames hfree hcause
    exact ⟨_, List.mem_map_of_mem hf, hfield⟩

end Fields

end Registry

/-! ## Catalogs -/

namespace Catalog

open Manifest

variable [DecidableEq τ] {c : Catalog τ} {family : Family τ}

/-- A compiled schema is the document of a declared model, put together from one property for each
field, and refers to nothing. -/
theorem exists_assemble_of_compileNamed {m : Manifest} (hc : ofManifest m = .ok c) {name : String}
    {schema : Json} (h : Scope.compileNamed ⟨family, some c⟩ name = .ok schema) :
    ∃ r properties, c.get? name = some r ∧ schema = .object (r.assemble properties) ∧
      r.fieldNames.Nodup ∧ OrderedMap.names properties = r.fieldNames ∧ ReferenceFree schema := by
  obtain ⟨r, properties, hr, rfl, hnodup, hproperties, hfree⟩ := hasProperties_of_compileNamed hc h
  exact ⟨r, properties, hr, rfl, hnodup, hproperties.names_eq, hfree⟩

/-- The violations of a document under the schema of a model of a catalog.  A document that is no
object has some, and they concern no field.  All violations of an object concern fields: those
required ones that it lacks, and those whose values their properties do not admit. -/
theorem fields_of_compileNamed {m : Manifest} (hc : ofManifest m = .ok c) {name : String}
    {schema : Json} (hcompile : Scope.compileNamed ⟨family, some c⟩ name = .ok schema)
    (hschema : isSchema schema = true) :
    ∃ r, c.get? name = some r ∧
      (∀ field, (∃ fragment, schema.property? field = some fragment) ↔ field ∈ r.fieldNames) ∧
      ∀ document, ∃ violations, violations? schema document = some violations ∧
        ((∀ members, document ≠ .object members) →
          violations ≠ [] ∧ ∀ v ∈ violations, v.field = none) ∧
        ∀ members, document = .object members →
          (∀ v ∈ violations, v.field ≠ none) ∧
          (violations = [] ↔
            (∀ field ∈ r.requiredNames, field ∈ OrderedMap.names members) ∧
              ∀ field ∈ r.fieldNames, ∀ value, OrderedMap.value? members field = some value →
                ∃ fragment, schema.property? field = some fragment ∧
                  isValid fragment value = true) ∧
          ∀ field, field ∈ Violations.fields violations ↔
            r.Lacks members field ∨ r.Refuses schema members field := by
  obtain ⟨r, properties, hr, rfl, hnodup, hnames, hfree⟩ :=
    exists_assemble_of_compileNamed hc hcompile
  refine ⟨r, hr, fun field => Registry.exists_property?_iff hnames, fun document => ?_⟩
  refine ⟨_, if_pos hschema, fun hdocument => ?_, ?_⟩
  · rw [failures_assemble_of_ne_object hfree hdocument]
    simp [Violation.field_ofFailure_here]
  · rintro members rfl
    refine ⟨?_, ?_, fun field => Registry.mem_fields_assemble_iff hnodup hnames hfree⟩
    · rw [List.forall_mem_map]
      intro f hf hnone
      obtain ⟨field, hfield, -⟩ := Registry.exists_field_of_mem_failures hnodup hnames hfree hf
      rw [hnone] at hfield
      cases hfield
    · rw [List.map_eq_nil_iff]
      exact Registry.failures_eq_nil_iff hnodup hnames hfree

/-- A shelf has a label without a name, and books under a name that is escaped in pointers. -/
def shelves : Manifest :=
  ⟨[⟨"shelf", none, [⟨"", "string", true, none, []⟩,
      ⟨"a/b~c", "list", false, some (.one "book"), []⟩]⟩,
    ⟨"book", none, [⟨"title", "string", true, none, []⟩]⟩]⟩

/-- The models of shelves. -/
def shelvesCatalog : Catalog Empty :=
  ⟨[⟨"shelf", .named "shelf", [("", ⟨.scalar .string, true, []⟩),
      ("a/b~c", ⟨.list (.single (.model (.named "book"))), false, []⟩)]⟩,
    ⟨"book", .named "book", [("title", ⟨.scalar .string, true, []⟩)]⟩]⟩

theorem ofManifest_shelves : ofManifest shelves = .ok shelvesCatalog := by
  cbv

/-- The schema of a book. -/
def bookSchema : Json :=
  .object [("type", .string "object"),
    ("properties", .object [("title", .object [("type", .string "string")])]),
    ("required", .array [.string "title"])]

/-- The schema of a shelf. -/
def shelfSchema : Json :=
  .object [("type", .string "object"),
    ("properties", .object [("", .object [("type", .string "string")]),
      ("a/b~c", .object [("type", .string "array"), ("items", bookSchema)])]),
    ("required", .array [.string ""])]

/-- A shelf without a label, and a book without a title. -/
def bareShelf : Json.Members := [("a/b~c", .array [.object []])]

theorem compileNamed_shelf :
    Scope.compileNamed ⟨.none, some shelvesCatalog⟩ "shelf" = .ok shelfSchema := by
  cbv

/-- The title that is missing within is put down to the books of the shelf. -/
theorem fields_bareShelf :
    ∃ violations, violations? shelfSchema (.object bareShelf) = some violations ∧
      violations ≠ [] ∧ "" ∈ Violations.fields violations ∧
      "a/b~c" ∈ Violations.fields violations ∧ "title" ∉ Violations.fields violations := by
  obtain ⟨r, hr, -, hdocument⟩ :=
    fields_of_compileNamed ofManifest_shelves compileNamed_shelf (by decide +kernel)
  obtain rfl : _ = r := Option.some.inj hr
  obtain ⟨violations, hviolations, -, hobject⟩ := hdocument (.object bareShelf)
  obtain ⟨-, hconforms, hfields⟩ := hobject bareShelf rfl
  have hlabel : "" ∈ Violations.fields violations :=
    (hfields "").mpr (.inl ⟨by decide, by decide⟩)
  have hinvalid : isValid (.object [("type", .string "array"), ("items", bookSchema)])
      (.array [.object []]) = false := by
    decide +kernel
  have hbooks : "a/b~c" ∈ Violations.fields violations :=
    (hfields "a/b~c").mpr (.inr ⟨by decide, _, _, rfl, rfl, hinvalid⟩)
  refine ⟨violations, hviolations, ?_, hlabel, hbooks, ?_⟩
  · intro hnone
    have hmem : "" ∈ OrderedMap.names bareShelf := (hconforms.mp hnone).1 "" (by decide)
    exact absurd hmem (by decide)
  · intro htitle
    rcases (hfields "title").mp htitle with ⟨hname, -⟩ | ⟨hname, -⟩
    · exact absurd hname (by decide)
    · exact absurd hname (by decide)

end Catalog
end ModelSchema
