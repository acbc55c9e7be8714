import ModelSchema.Proofs.Schema.Draft4.Reference

/-!
# What stands under the keywords of a schema

The same text may be a keyword in one place and the name of a property in another.  Which of the two
it is depends on the place only: the members of a schema are keywords, those of the object under
`properties` are names.  A value that was emitted has under each keyword what belongs there, and no
other keywords than those that shapes and validators write.

Main results:

- Theorem `Draft4.Emitted.putAll`: keywords may be written into the keywords of a schema.
- Theorems `Draft4.Emitted.distinct` and `Draft4.Emitted.referenceFree`: emitted values have
  distinct names and refer to nothing.
-/

namespace ModelSchema
namespace Draft4

/-- What the value of a keyword is made of; a schema is a part of its own. -/
inductive Part where
  | schema | properties | branches | names | text | bound | flag | count | unused
deriving DecidableEq

/-- What stands under a keyword, for all keywords that are ever written. -/
def Part.ofKeyword : String → Part
  | "type" => .text
  | "format" => .text
  | "properties" => .properties
  | "required" => .names
  | "items" => .schema
  | "oneOf" => .branches
  | "minimum" => .bound
  | "exclusiveMinimum" => .flag
  | "maximum" => .bound
  | "exclusiveMaximum" => .flag
  | "pattern" => .text
  | "minLength" => .count
  | "maxLength" => .count
  | _ => .unused

/-- The keywords under which a part stands. -/
def Part.keywords : Part → List String
  | .schema => ["items"]
  | .properties => ["properties"]
  | .branches => ["oneOf"]
  | .names => ["required"]
  | .text => ["type", "format", "pattern"]
  | .bound => ["minimum", "maximum"]
  | .flag => ["exclusiveMinimum", "exclusiveMaximum"]
  | .count => ["minLength", "maxLength"]
  | .unused => []

/-- A part that is written stands under one of its keywords. -/
theorem Part.mem_keywords {key : String} {part : Part} (hpart : Part.ofKeyword key = part)
    (hused : part ≠ .unused) : key ∈ part.keywords := by
  subst hpart
  unfold ofKeyword at hused ⊢
  split <;> simp_all [keywords]

/-- A value is made as the value of a keyword has to be.  Under `properties` the names are free;
nothing stands under other keywords than those that are written. -/
inductive Emitted : Part → Json → Prop where
  | schema {members : Json.Members} (hnames : (OrderedMap.names members).Nodup)
      (hmembers : ∀ member ∈ members, Emitted (.ofKeyword member.1) member.2) :
      Emitted .schema (.object members)
  | properties {properties : Json.Members} (hnames : (OrderedMap.names properties).Nodup)
      (hproperties : ∀ property ∈ properties, Emitted .schema property.2) :
      Emitted .properties (.object properties)
  | branches {branches : List Json} (hbranches : ∀ branch ∈ branches, Emitted .schema branch) :
      Emitted .branches (.array branches)
  | names (names : List String) : Emitted .names (.array (names.map .string))
  | text (text : String) : Emitted .text (.string text)
  | bound (bound : Number) : Emitted .bound (.number bound)
  | flag : Emitted .flag (.bool true)
  | count (count : Nat) : Emitted .count (.int count)

namespace Emitted

variable {members entries : Json.Members} {part : Part} {value : Json}

theorem schema_iff : Emitted .schema (.object members) ↔
    (OrderedMap.names members).Nodup ∧
      ∀ member ∈ members, Emitted (.ofKeyword member.1) member.2 := by
  constructor
  · intro h
    cases h with
    | schema hnames hmembers => exact ⟨hnames, hmembers⟩
  · rintro ⟨hnames, hmembers⟩
    exact .schema hnames hmembers

/-- Keywords may be written into the keywords of a schema. -/
theorem putAll (hmembers : Emitted .schema (.object members))
    (hentries : Emitted .schema (.object entries)) :
    Emitted .schema (.object (OrderedMap.putAll members entries)) := by
  rw [schema_iff] at hmembers hentries ⊢
  refine ⟨OrderedMap.nodup_names_putAll hmembers.1 entries, fun member hmember => ?_⟩
  rcases OrderedMap.mem_of_mem_putAll hmember with hold | hnew
  · exact hmembers.2 member hold
  · exact hentries.2 member hnew

/-- No name occurs twice in an object that was emitted, at any depth. -/
theorem distinct (h : Emitted part value) : value.Distinct := by
  induction h with
  | schema hnames _ ih => exact .object hnames ih
  | properties hnames _ ih => exact .object hnames ih
  | branches _ ih => exact .array ih
  | names names =>
    rw [Json.distinct_array_iff, List.forall_mem_map]
    exact fun name _ => .string name
  | text text => exact .string text
  | bound bound => exact .number bound
  | flag => exact .bool true
  | count count => exact .number _

/-- No text stands under `$ref`: it is no keyword that is written, and a property of this name is a
schema. -/
theorem referenceFree (h : Emitted part value) : ReferenceFree value := by
  induction h with
  | @schema members _ hmembers ih =>
    refine .object (fun text hreference => ?_) ih
    have hunused : Emitted .unused (.string text) := hmembers _ hreference
    cases hunused
  | properties _ hproperties ih =>
    refine .object (fun text hreference => ?_) ih
    cases hproperties _ hreference
  | branches _ ih => exact .array ih
  | names names =>
    rw [referenceFree_array_iff, List.forall_mem_map]
    exact fun name _ => .string name
  | text text => exact .string text
  | bound bound => exact .number bound
  | flag => exact .bool true
  | count count => exact .number _

end Emitted

end Draft4
end ModelSchema
