import ModelSchema.Proofs.Json.Value
import ModelSchema.Schema.Violation

/-!
# Schemas that are in order throughout

A schema has other schemas in it: those of its properties, that of its items and the branches of its
choice.  It is in order throughout if each of these, at any depth, has under each of its keywords
what belongs there beside the others.  A validator takes every such schema, provided that it can
read the patterns in it.

Main results:

- Theorem `Draft4.proper_object_iff`: a schema is in order if its keywords and its parts are.
- Theorem `Draft4.Admitted.putAll`: keywords written over keywords in order.
- Theorem `Draft4.isSchema_of_proper`: what is in order is accepted as a schema.
-/

namespace ModelSchema
namespace Draft4

/-! ## Places of schemas -/

/-- A schema stands in another one: it is that schema, or it stands in one of its properties, in its
items or in a branch of its choice. -/
inductive StandsIn (part : Json) : Json → Prop where
  | here : StandsIn part part
  | property {members properties : Json.Members} {property : String × Json}
      (hproperties : ("properties", .object properties) ∈ members)
      (hproperty : property ∈ properties) (h : StandsIn part property.2) :
      StandsIn part (.object members)
  | items {members : Json.Members} {items : Json} (hitems : ("items", items) ∈ members)
      (h : StandsIn part items) : StandsIn part (.object members)
  | branch {members : Json.Members} {branches : List Json} {branch : Json}
      (hbranches : ("oneOf", .array branches) ∈ members) (hbranch : branch ∈ branches)
      (h : StandsIn part branch) : StandsIn part (.object members)

/-! ## Keywords in order -/

/-- What may stand under a keyword beside the other keywords of a schema: a type has a known name,
required names are different and have properties, a choice has two branches or more, a bound is a
number, which may be excluded only where it stands, and a length is a count.  `patterns` are the
texts that may stand as patterns.  There are no other keywords. -/
def Admits (patterns : String → Prop) (siblings : Json.Members) (key : String) (value : Json) :
    Prop :=
  match key with
  | "type" => ∃ type ∈ typeNames, value = .string type
  | "format" => ∃ format, value = .string format
  | "properties" => ∃ properties, value = .object properties
  | "required" => ∃ names properties, value = .array (names.map .string) ∧ names ≠ [] ∧
      names.Nodup ∧ ("properties", .object properties) ∈ siblings ∧
        ∀ name ∈ names, name ∈ OrderedMap.names properties
  | "items" => True
  | "oneOf" => ∃ branches, value = .array branches ∧ 2 ≤ branches.length
  | "minimum" => ∃ bound, value = .number bound
  | "maximum" => ∃ bound, value = .number bound
  | "exclusiveMinimum" => value = .bool true ∧ "minimum" ∈ OrderedMap.names siblings
  | "exclusiveMaximum" => value = .bool true ∧ "maximum" ∈ OrderedMap.names siblings
  | "minLength" => ∃ count : Nat, value = .int count
  | "maxLength" => ∃ count : Nat, value = .int count
  | "pattern" => ∃ text, value = .string text ∧ patterns text
  | _ => False

/-- The keywords of a schema are different, and what stands under them may stand there. -/
def Admitted (patterns : String → Prop) (members : Json.Members) : Prop :=
  (OrderedMap.names members).Nodup ∧
    ∀ member ∈ members, Admits patterns members member.1 member.2

/-- Wherever a schema stands in a value, it is an object with keywords in order. -/
def Proper (patterns : String → Prop) (schema : Json) : Prop :=
  ∀ part, StandsIn part schema → ∃ members, part = .object members ∧ Admitted patterns members

section Proper

variable {patterns patterns' : String → Prop} {members entries siblings siblings' : Json.Members}

/-- More keywords may stand beside a keyword, and more texts as patterns. -/
theorem Admits.mono {key : String} {value : Json} (h : Admits patterns siblings key value)
    (hpatterns : ∀ text, patterns text → patterns' text)
    (hnames : ∀ name ∈ OrderedMap.names siblings, name ∈ OrderedMap.names siblings')
    (hproperties : ∀ properties, ("properties", .object properties) ∈ siblings →
      ("properties", .object properties) ∈ siblings') :
    Admits patterns' siblings' key value := by
  unfold Admits at h ⊢
  split at h
  case h_4 =>
    obtain ⟨names, properties, hvalue, hne, hnodup, hbeside, hall⟩ := h
    exact ⟨names, properties, hvalue, hne, hnodup, hproperties _ hbeside, hall⟩
  case h_9 => exact ⟨h.1, hnames _ h.2⟩
  case h_10 => exact ⟨h.1, hnames _ h.2⟩
  case h_13 =>
    obtain ⟨text, hvalue, htext⟩ := h
    exact ⟨text, hvalue, hpatterns text htext⟩
  case h_14 => exact h.elim
  all_goals exact h

theorem Admitted.mono (h : Admitted patterns members)
    (hpatterns : ∀ text, patterns text → patterns' text) : Admitted patterns' members :=
  ⟨h.1, fun member hmember => (h.2 member hmember).mono hpatterns (fun _ => id) fun _ => id⟩

theorem Proper.mono {schema : Json} (h : Proper patterns schema)
    (hpatterns : ∀ text, patterns text → patterns' text) : Proper patterns' schema := by
  intro part hpart
  obtain ⟨members, rfl, hmembers⟩ := h part hpart
  exact ⟨members, rfl, hmembers.mono hpatterns⟩

/-- A schema is in order if its own keywords are, and if its properties, its items and the branches
of its choice are. -/
theorem proper_object_iff :
    Proper patterns (.object members) ↔
      Admitted patterns members ∧
      (∀ properties, ("properties", .object properties) ∈ members →
        ∀ property ∈ properties, Proper patterns property.2) ∧
      (∀ items, ("items", items) ∈ members → Proper patterns items) ∧
      ∀ branches, ("oneOf", .array branches) ∈ members →
        ∀ branch ∈ branches, Proper patterns branch := by
  constructor
  · intro h
    obtain ⟨_, heq, hmembers⟩ := h _ .here
    cases heq
    exact ⟨hmembers, fun _ hproperties _ hproperty part hpart =>
        h part (.property hproperties hproperty hpart),
      fun _ hitems part hpart => h part (.items hitems hpart),
      fun _ hbranches _ hbranch part hpart => h part (.branch hbranches hbranch hpart)⟩
  · rintro ⟨hmembers, hproperties, hitems, hbranches⟩ part hpart
    cases hpart with
    | here => exact ⟨members, rfl, hmembers⟩
    | property hmem hproperty hpart => exact hproperties _ hmem _ hproperty part hpart
    | items hmem hpart => exact hitems _ hmem part hpart
    | branch hmem hbranch hpart => exact hbranches _ hmem _ hbranch part hpart

/-- Keywords in order may be written over others in order, as long as they are not about
properties. -/
theorem Admitted.putAll (hmembers : Admitted patterns members)
    (hentries : Admitted patterns entries) (hnew : "properties" ∉ OrderedMap.names entries) :
    Admitted patterns (OrderedMap.putAll members entries) := by
  have hnodup := OrderedMap.nodup_names_putAll hmembers.1 entries
  have hvalue : ∀ name, OrderedMap.value? (OrderedMap.putAll members entries) name =
      (OrderedMap.value? entries name).or (OrderedMap.value? members name) := by
    intro name
    rw [OrderedMap.value?_putAll, OrderedMap.value?_reverse hentries.1]
  refine ⟨hnodup, fun member hmember => ?_⟩
  rcases OrderedMap.mem_of_mem_putAll hmember with hold | hwritten
  · refine (hmembers.2 member hold).mono (fun _ => id)
        (fun name h => OrderedMap.mem_names_putAll.mpr (.inl h)) ?_
    intro properties hproperties
    rw [← OrderedMap.value?_eq_some_iff hnodup, hvalue, OrderedMap.value?_eq_none_iff.mpr hnew,
      Option.none_or, OrderedMap.value?_eq_some_iff hmembers.1]
    exact hproperties
  · refine (hentries.2 member hwritten).mono (fun _ => id)
        (fun name h => OrderedMap.mem_names_putAll.mpr (.inr h)) ?_
    intro properties hproperties
    exact absurd (OrderedMap.name_mem_of_mem hproperties) hnew

/-- Schemas in order stay in order when keywords in order are written into them that hold no
schemas. -/
theorem Proper.putAll (hmembers : Proper patterns (.object members))
    (hentries : Admitted patterns entries)
    (hnew : ∀ key ∈ ["properties", "items", "oneOf"], key ∉ OrderedMap.names entries) :
    Proper patterns (.object (OrderedMap.putAll members entries)) := by
  rw [proper_object_iff] at hmembers ⊢
  obtain ⟨hadmitted, hproperties, hitems, hbranches⟩ := hmembers
  have hold : ∀ key ∈ ["properties", "items", "oneOf"], ∀ value,
      (key, value) ∈ OrderedMap.putAll members entries → (key, value) ∈ members := by
    intro key hkey value hmember
    rcases OrderedMap.mem_of_mem_putAll hmember with hold | hwritten
    · exact hold
    · exact absurd (OrderedMap.name_mem_of_mem hwritten) (hnew key hkey)
  refine ⟨hadmitted.putAll hentries (hnew _ (by simp)), fun properties hmem => ?_,
    fun items hmem => ?_, fun branches hmem => ?_⟩
  · exact hproperties properties (hold _ (by simp) _ hmem)
  · exact hitems items (hold _ (by simp) _ hmem)
  · exact hbranches branches (hold _ (by simp) _ hmem)

end Proper

/-! ## Schemas in order are accepted -/

section Accepted

variable {patterns : String → Prop} {siblings : Json.Members}

/-- Keywords have admitted values if each one has. -/
theorem areKeywords_iff {members : Json.Members} :
    areKeywords siblings members = true ↔
      ∀ member ∈ members, areKeywords siblings [member] = true := by
  induction members with
  | nil => simp [areKeywords]
  | cons member rest ih =>
    rw [List.forall_mem_cons, ← ih, areKeywords, areKeywords, areKeywords, Bool.and_true,
      Bool.and_eq_true]

/-- Keywords have no demands if none has any. -/
theorem keywordDemands_eq_nil_iff {members : Json.Members} :
    keywordDemands members = [] ↔ ∀ member ∈ members, keywordDemands [member] = [] := by
  induction members with
  | nil => simp [keywordDemands]
  | cons member rest ih =>
    have hcons : keywordDemands (member :: rest) =
        keywordDemands [member] ++ keywordDemands rest := by
      simp [keywordDemands]
    rw [List.forall_mem_cons, ← ih, hcons, List.append_eq_nil_iff]

/-- The texts in an array of texts. -/
theorem strings_map (names : List String) : strings (.array (names.map .string)) = names := by
  rw [strings, List.filterMap_map]
  exact List.filterMap_some

theorem allDistinct_iff {names : List String} : allDistinct names = true ↔ names.Nodup := by
  induction names with
  | nil => simp [allDistinct]
  | cons name rest ih => simp [allDistinct, ih]

/-- Different texts, of which there is one at least, are names. -/
theorem isNameList_map {names : List String} (hne : names ≠ []) (hnodup : names.Nodup) :
    isNameList (.array (names.map .string)) = true := by
  rw [isNameList, strings_map, allDistinct_iff.mpr hnodup]
  simp [hne, isString]

/-- A keyword in order is accepted and demands nothing, provided that this holds of the schemas
under it. -/
theorem accepted_keyword
    (hpatterns : ∀ text, patterns text → Format.holds "regex" text = true) {key : String}
    {value : Json} (h : Admits patterns siblings key value)
    (hproperties : key = "properties" → isSchemaMap value = true ∧ mapDemands value = [])
    (hitems : key = "items" → isWellFormed value = true ∧ demands value = [])
    (hbranches : key = "oneOf" → isSchemaList value = true ∧ listDemands value = []) :
    areKeywords siblings [(key, value)] = true ∧ keywordDemands [(key, value)] = [] := by
  unfold Admits at h
  split at h
  -- A type, properties, required names, items, a choice, exclusions, a pattern; last the rest.
  case h_1 =>
    obtain ⟨type, htype, rfl⟩ := h
    simp [areKeywords, keywordDemands, isPlainKeyword, textKeywords, countKeywords, isTypeList,
      htype]
  case h_3 => simpa [areKeywords, keywordDemands] using hproperties rfl
  case h_4 =>
    obtain ⟨names, properties, rfl, hne, hnodup, -⟩ := h
    simp [areKeywords, keywordDemands, isPlainKeyword, textKeywords, countKeywords,
      isNameList_map hne hnodup]
  case h_5 =>
    obtain ⟨hformed, hdemands⟩ := hitems rfl
    cases value <;> simp_all [areKeywords, keywordDemands, listDemands, isWellFormed]
  case h_6 => simpa [areKeywords, keywordDemands] using hbranches rfl
  case h_9 =>
    obtain ⟨rfl, hbound⟩ := h
    simp [areKeywords, keywordDemands, isPlainKeyword, textKeywords, countKeywords, isBool,
      (OrderedMap.has_iff _ _).mpr hbound]
  case h_10 =>
    obtain ⟨rfl, hbound⟩ := h
    simp [areKeywords, keywordDemands, isPlainKeyword, textKeywords, countKeywords, isBool,
      (OrderedMap.has_iff _ _).mpr hbound]
  case h_13 =>
    obtain ⟨text, rfl, htext⟩ := h
    simp [areKeywords, keywordDemands, isPlainKeyword, textKeywords, countKeywords, isFormatted,
      hpatterns text htext]
  case h_14 => exact h.elim
  all_goals
    obtain ⟨_, rfl⟩ := h
    simp [areKeywords, keywordDemands, isPlainKeyword, textKeywords, countKeywords, isString,
      isNumber, isCount, Json.int]

/-- Values of members are accepted, and demand nothing, if each one does. -/
theorem accepted_members {members : Json.Members}
    (h : ∀ member ∈ members, isWellFormed member.2 = true ∧ demands member.2 = []) :
    areSchemaMembers members = true ∧ memberDemands members = [] := by
  induction members with
  | nil => exact ⟨by rw [areSchemaMembers], by rw [memberDemands]⟩
  | cons member rest ih =>
    obtain ⟨⟨hformed, hdemands⟩, hrest⟩ := List.forall_mem_cons.mp h
    obtain ⟨ihformed, ihdemands⟩ := ih hrest
    rw [areSchemaMembers, memberDemands, hformed, hdemands, ihformed, ihdemands]
    exact ⟨rfl, rfl⟩

/-- Items are accepted, and demand nothing, if each one does. -/
theorem accepted_items {items : List Json}
    (h : ∀ item ∈ items, isWellFormed item = true ∧ demands item = []) :
    areSchemas items = true ∧ itemDemands items = [] := by
  induction items with
  | nil => exact ⟨by rw [areSchemas], by rw [itemDemands]⟩
  | cons item rest ih =>
    obtain ⟨⟨hformed, hdemands⟩, hrest⟩ := List.forall_mem_cons.mp h
    obtain ⟨ihformed, ihdemands⟩ := ih hrest
    rw [areSchemas, itemDemands, hformed, hdemands, ihformed, ihdemands]
    exact ⟨rfl, rfl⟩

/-- No reference is among keywords in order. -/
theorem Admitted.value?_reference {members : Json.Members} (h : Admitted patterns members) :
    OrderedMap.value? members "$ref" = none := by
  rw [OrderedMap.value?_eq_none_iff]
  intro hname
  obtain ⟨value, hmember⟩ := OrderedMap.exists_mem_of_name_mem hname
  exact h.2 _ hmember

/-- A value that is in order as a schema, as properties or as branches is accepted as such, and
demands nothing. -/
theorem accepted_of_proper (hpatterns : ∀ text, patterns text → Format.holds "regex" text = true)
    (v : Json) :
    (Proper patterns v → isWellFormed v = true ∧ demands v = []) ∧
    (∀ properties, v = .object properties →
      (∀ property ∈ properties, Proper patterns property.2) →
        isSchemaMap v = true ∧ mapDemands v = []) ∧
    ∀ branches, v = .array branches → (∀ branch ∈ branches, Proper patterns branch) →
      areSchemas branches = true ∧ listDemands v = [] := by
  induction v using Json.induction with
  | object members ih =>
    refine ⟨fun h => ?_, ?_, nofun⟩
    · obtain ⟨hmembers, hproperties, hitems, hbranches⟩ := proper_object_iff.mp h
      have hkeywords : ∀ member ∈ members, areKeywords members [member] = true ∧
          keywordDemands [member] = [] := by
        rintro ⟨key, value⟩ hmember
        have hadmits := hmembers.2 _ hmember
        obtain ⟨ihschema, ihproperties, ihbranches⟩ := ih _ hmember
        refine accepted_keyword hpatterns hadmits ?_ ?_ ?_
        · rintro rfl
          obtain ⟨properties, rfl⟩ := hadmits
          exact ihproperties properties rfl (hproperties _ hmember)
        · rintro rfl
          exact ihschema (hitems _ hmember)
        · rintro rfl
          obtain ⟨branches, rfl, hlength⟩ := hadmits
          obtain ⟨hformed, hdemands⟩ := ihbranches branches rfl (hbranches _ hmember)
          refine ⟨?_, hdemands⟩
          rw [isSchemaList, hformed, Bool.and_true, Bool.not_eq_true', List.isEmpty_eq_false_iff]
          rintro rfl
          exact absurd hlength (by simp)
      constructor
      · rw [isWellFormed, areKeywords_iff]
        exact fun member hmember => (hkeywords member hmember).1
      · rw [demands, hmembers.value?_reference]
        exact keywordDemands_eq_nil_iff.mpr fun member hmember => (hkeywords member hmember).2
    · rintro _ ⟨⟩ hproperties
      rw [isSchemaMap, mapDemands]
      exact accepted_members fun member hmember =>
        (ih member hmember).1 (hproperties member hmember)
  | array items ih =>
    refine ⟨fun h => ?_, nofun, ?_⟩
    · obtain ⟨members, heq, -⟩ := h _ .here
      cases heq
    · rintro _ ⟨⟩ hbranches
      rw [listDemands]
      exact accepted_items fun item hitem => (ih item hitem).1 (hbranches item hitem)
  | _ =>
    refine ⟨fun h => ?_, nofun, nofun⟩
    obtain ⟨members, heq, -⟩ := h _ .here
    cases heq

/-- A value that is in order throughout is accepted as a schema if its patterns can be read. -/
theorem isSchema_of_proper {schema : Json} (h : Proper patterns schema)
    (hpatterns : ∀ text, patterns text → Format.holds "regex" text = true) :
    isSchema schema = true := by
  obtain ⟨hformed, hdemands⟩ := (accepted_of_proper hpatterns schema).1 h
  rw [isSchema, hformed, hdemands, areMet]
  rfl

end Accepted

end Draft4
end ModelSchema
