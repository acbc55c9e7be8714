import ModelSchema.Schema.Draft4.Failure
import ModelSchema.Schema.Draft4.Schema

/-!
# Values under schemas

`Draft4.failures` gives what is wrong with a value under a schema, keyword by keyword in the order
of the schema.  A value is valid if nothing is wrong with it.

The value of a keyword may be a schema, an object of schemas or an array of them; a `Rule` holds
what each of these finds wrong with a value.  The members of an object that `properties` and
`patternProperties` describe are looked at under `additionalProperties` if that keyword has
something to say about the others.
-/

namespace ModelSchema

namespace Draft4

/-- What a schema finds wrong with a value. -/
abbrev Check := Json → List Failure

/-- The value of a keyword, and what it checks as a schema, as an object of schemas and as an array
of schemas. -/
structure Rule where
  value : Json
  check : Check
  named : List (String × Check)
  listed : List Check

/-- The rules of a schema by keyword. -/
abbrev Rules := List (String × Rule)

/-! ## Objects -/

/-- Failures of the members that properties describe, in the order of the properties. -/
def propertyFailures : List (String × Check) → Json.Members → List Failure
  | [], _ => []
  | (name, check) :: rest, members =>
    (match OrderedMap.value? members name with
      | some value => (check value).map (.under name)
      | none => []) ++ propertyFailures rest members

/-- Whether a part of a text matches a pattern. -/
def matchesPattern (pattern text : String) : Bool :=
  (SchemaPattern.ofText? pattern).any fun p => p.search text = .found

/-- The checks whose patterns match a name. -/
def matchingChecks (patterns : List (String × Check)) (name : String) : List Check :=
  (patterns.filter fun p => matchesPattern p.1 name).map (·.2)

/-- Failures of the members whose names match patterns, pattern by pattern. -/
def patternFailures (patterns : List (String × Check)) (members : Json.Members) : List Failure :=
  patterns.flatMap fun (pattern, check) =>
    (members.filter fun member => matchesPattern pattern member.1).flatMap fun (name, value) =>
      (check value).map (.under name)

/-- Whether additional members are restricted. -/
def restrictsOthers (rules : Rules) : Bool :=
  match (OrderedMap.value? rules "additionalProperties").map Rule.value with
  | some (.bool false) => true
  | some (.object _) => true
  | _ => false

/-- The checks of a keyword that holds an object of schemas. -/
def namedChecks (rules : Rules) (key : String) : List (String × Check) :=
  ((OrderedMap.value? rules key).map Rule.named).getD []

/-- Whether neither a property nor a pattern describes a member. -/
def isOther (rules : Rules) (name : String) : Bool :=
  !OrderedMap.has (namedChecks rules "properties") name &&
    (matchingChecks (namedChecks rules "patternProperties") name).isEmpty

/-- Failures of all members, one after another, if others than those described are checked, or are
not admitted. -/
def memberFailures (rules : Rules) (others : Rule) (members : Json.Members) : List Failure :=
  let failures := members.flatMap fun (name, value) =>
    let checks := (OrderedMap.value? (namedChecks rules "properties") name).toList ++
      matchingChecks (namedChecks rules "patternProperties") name
    (checks.flatMap fun check => (check value).map (.under name)) ++
      if isOther rules name then (others.check value).map (.under name) else []
  match others.value with
  | .bool false =>
    let names := (members.filter fun member => isOther rules member.1).map (·.1)
    failures ++ failUnless names.isEmpty "additionalProperties"
      ("Additional properties are not allowed " ++ unexpected (names.map fun n => s!"'{n}'"))
  | _ => failures

/-- Failures of an object that lacks what the presence of a member demands. -/
def dependencyFailures (rule : Rule) (members : Json.Members) : List Failure :=
  rule.named.flatMap fun (name, check) =>
    if OrderedMap.has members name then
      match (rule.value.member? name).getD .null with
      | .array names =>
        (plainFailures [] "required" (.array names) (.object members)).map
          fun f => { f with keyword := name }
      | _ => check (.object members)
    else []

/-! ## Arrays -/

/-- Failures of the items of an array from a place on, all under one schema. -/
def itemFailures (check : Check) : Nat → List Json → List Failure
  | _, [] => []
  | i, item :: rest => (check item).map (.under (toString i)) ++ itemFailures check (i + 1) rest

/-- Failures of items under the schemas at their places. -/
def tupleFailures : Nat → List Check → List Json → List Failure
  | i, check :: checks, item :: items =>
    (check item).map (.under (toString i)) ++ tupleFailures (i + 1) checks items
  | _, _, _ => []

/-- Failures of the items for which there is no schema at their place. -/
def furtherFailures (rules : Rules) (others : Rule) (items : List Json) : List Failure :=
  match (OrderedMap.value? rules "items").map Rule.value, others.value with
  | some (.array schemas), .bool false =>
    let further := items.drop schemas.length
    failUnless further.isEmpty "additionalItems"
      ("Additional items are not allowed " ++ unexpected (further.map Json.compact))
  | some (.array schemas), _ =>
    itemFailures others.check schemas.length (items.drop schemas.length)
  | _, _ => []

/-! ## Choices -/

/-- How many checks admit a value. -/
def countValid (checks : List Check) (value : Json) : Nat :=
  (checks.filter fun check => (check value).isEmpty).length

/-- The failure of a choice of which `count` branches admit the value. -/
def choiceFailures (count : Nat) (value : Json) : List Failure :=
  if count = 1 then []
  else if count = 0 then
    [.here "oneOf" (value.compact ++
      " is not valid under any of the schemas listed in the 'oneOf' keyword")]
  else
    [.here "oneOf" (value.compact ++
      " is valid under more than one of the schemas listed in the 'oneOf' keyword")]

/-! ## Schemas -/

/-- Failures of a value under a keyword. -/
def keywordFailures (siblings : Json.Members) (rules : Rules) (key : String) (rule : Rule)
    (value : Json) : List Failure :=
  match key, value with
  | "properties", .object members =>
    if restrictsOthers rules then [] else propertyFailures rule.named members
  | "patternProperties", .object members =>
    if restrictsOthers rules then [] else patternFailures rule.named members
  | "additionalProperties", .object members =>
    if restrictsOthers rules then memberFailures rules rule members else []
  | "dependencies", .object members => dependencyFailures rule members
  | "items", .array items => itemFailures rule.check 0 items ++ tupleFailures 0 rule.listed items
  | "additionalItems", .array items => furtherFailures rules rule items
  | "oneOf", value => choiceFailures (countValid rule.listed value) value
  | "anyOf", value =>
    failUnless (0 < countValid rule.listed value) key (value.compact ++
      " is not valid under any of the schemas listed in the 'anyOf' keyword")
  | "allOf", value => rule.listed.flatMap fun check => check value
  | "not", value =>
    failUnless (!(rule.check value).isEmpty) key
      (rule.value.compact ++ " is not allowed for " ++ value.compact)
  | key, value => plainFailures siblings key rule.value value

mutual

/-- What is wrong with a value under a schema, in the order of the keywords.  A reference hides the
other keywords and is left to `follow`. -/
def failuresWith (follow : String → Check) : Json → Json → List Failure
  | .object members, value =>
    match OrderedMap.value? members "$ref" with
    | some (.string reference) => follow reference value
    | _ =>
      let rules := rulesWith follow members
      rules.flatMap fun (key, rule) => keywordFailures members rules key rule value
  | _, _ => []

/-- The rules of the keywords of a schema. -/
def rulesWith (follow : String → Check) : List (String × Json) → Rules
  | [] => []
  | (key, value) :: rest =>
    (key, ⟨value, fun x => failuresWith follow value x, namedWith follow value,
      listedWith follow value⟩) :: rulesWith follow rest

/-- The checks of an object of schemas. -/
def namedWith (follow : String → Check) : Json → List (String × Check)
  | .object members => membersWith follow members
  | _ => []

/-- The checks of members. -/
def membersWith (follow : String → Check) : List (String × Json) → List (String × Check)
  | [] => []
  | (name, schema) :: rest =>
    (name, fun x => failuresWith follow schema x) :: membersWith follow rest

/-- The checks of an array of schemas. -/
def listedWith (follow : String → Check) : Json → List Check
  | .array items => itemsWith follow items
  | _ => []

/-- The checks of items. -/
def itemsWith (follow : String → Check) : List Json → List Check
  | [] => []
  | schema :: rest => (fun x => failuresWith follow schema x) :: itemsWith follow rest

end

/-- What is wrong with a value under a schema in a document, where references are followed up to
some depth. -/
def failuresWithin (document : Json) : Nat → Json → Check
  | 0, schema => failuresWith (fun _ _ => []) schema
  | depth + 1, schema =>
    failuresWith
      (fun reference value =>
        match target? document reference with
        | some target => failuresWithin document depth target value
        | none => [])
      schema

/-- What is wrong with a value under a schema.  Unless references lead in a circle, no more of them
are followed, one in another, than there are pairs of a part of the schema and one of the value. -/
def failures (schema value : Json) : List Failure :=
  failuresWithin schema (size schema * size value) schema value

/-- Whether a value is valid under a schema. -/
def isValid (schema value : Json) : Bool := (failures schema value).isEmpty

end Draft4

end ModelSchema
