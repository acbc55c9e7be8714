import ModelSchema.Json.Pointer
import ModelSchema.Schema.Draft4.Type
import ModelSchema.Schema.Format

/-!
# Which values are schemas

A value is a schema (`Draft4.isSchema`) if all keywords in it have admitted values
(`Draft4.isWellFormed`) and what it demands can be met: references lead to schemas, and the names
under `patternProperties` are patterns.  Definitions that nothing refers to demand nothing.
-/

namespace ModelSchema

namespace Draft4

/-! ## Admitted values -/

/-- A string. -/
def isString : Json → Bool
  | .string _ => true
  | _ => false

/-- A boolean. -/
def isBool : Json → Bool
  | .bool _ => true
  | _ => false

/-- A number. -/
def isNumber : Json → Bool
  | .number _ => true
  | _ => false

/-- An integer that is not negative. -/
def isCount : Json → Bool
  | .number (.int n) => 0 ≤ n
  | _ => false

/-- Whether no string of a list occurs twice. -/
def allDistinct : List String → Bool
  | [] => true
  | s :: rest => !rest.contains s && allDistinct rest

/-- A nonempty array of different strings. -/
def isNameList : Json → Bool
  | .array items =>
    !items.isEmpty && items.all isString && allDistinct (strings (.array items))
  | _ => false

/-- The name of a type, or a nonempty array of different ones. -/
def isTypeList : Json → Bool
  | .string type => typeNames.contains type
  | other => isNameList other && (strings other).all typeNames.contains

/-- A string of a format. -/
def isFormatted (format : String) : Json → Bool
  | .string text => Format.holds format text
  | _ => false

/-- The URIs of dialects, without a sign `#` at the end. -/
def dialects : List String :=
  ["https://json-schema.org/draft/2020-12/schema", "https://json-schema.org/draft/2019-09/schema",
   "http://json-schema.org/draft-07/schema", "http://json-schema.org/draft-06/schema",
   "http://json-schema.org/draft-04/schema"]

/-- The URI of a dialect. -/
def isDialect : Json → Bool
  | .string text =>
    dialects.contains (String.ofList ((text.toList.reverse.dropWhile (· = '#')).reverse))
  | _ => false

/-- Keywords whose values are counts. -/
def countKeywords : List String :=
  ["maxLength", "minLength", "maxItems", "minItems", "maxProperties", "minProperties"]

/-- Keywords whose values are strings. -/
def textKeywords : List String := ["title", "description", "format"]

/-- Whether the value of a keyword that holds no schema is admitted beside other keywords. -/
def isPlainKeyword (siblings : Json.Members) (key : String) (value : Json) : Bool :=
  if textKeywords.contains key then isString value
  else if countKeywords.contains key then isCount value
  else
    match key with
    | "id" => isFormatted "uri" value
    | "$schema" => isDialect value
    | "type" => isTypeList value
    | "required" => isNameList value
    | "pattern" => isFormatted "regex" value
    | "minimum" => isNumber value
    | "maximum" => isNumber value
    | "exclusiveMinimum" => isBool value && OrderedMap.has siblings "minimum"
    | "exclusiveMaximum" => isBool value && OrderedMap.has siblings "maximum"
    | "multipleOf" =>
      match value with
      | .number n => 0 < n.units
      | _ => false
    | "uniqueItems" => isBool value
    | "enum" =>
      match value with
      | .array _ => true
      | _ => false
    | _ => true

mutual

/-- Whether a value is an object in which all keywords have admitted values. -/
def isWellFormed : Json → Bool
  | .object members => areKeywords members members
  | _ => false

/-- Whether the keywords of a schema have admitted values. -/
def areKeywords (siblings : List (String × Json)) : List (String × Json) → Bool
  | [] => true
  | (key, value) :: rest =>
    (if key = "properties" ∨ key = "definitions" ∨ key = "patternProperties" then
        isSchemaMap value
      else if key = "items" then isWellFormed value || isSchemaList value
      else if key = "oneOf" ∨ key = "anyOf" ∨ key = "allOf" then isSchemaList value
      else if key = "not" then isWellFormed value
      else if key = "additionalProperties" ∨ key = "additionalItems" then
        isBool value || isWellFormed value
      else if key = "dependencies" then isDependencyMap value
      else isPlainKeyword siblings key value) &&
    areKeywords siblings rest

/-- Whether a value is an object of schemas. -/
def isSchemaMap : Json → Bool
  | .object members => areSchemaMembers members
  | _ => false

/-- Whether the values of members are schemas. -/
def areSchemaMembers : List (String × Json) → Bool
  | [] => true
  | (_, value) :: rest => isWellFormed value && areSchemaMembers rest

/-- Whether a value is an object of schemas and lists of names. -/
def isDependencyMap : Json → Bool
  | .object members => areDependencies members
  | _ => false

/-- Whether the values of members are schemas or lists of names. -/
def areDependencies : List (String × Json) → Bool
  | [] => true
  | (_, value) :: rest => (isWellFormed value || isNameList value) && areDependencies rest

/-- Whether a value is a nonempty array of schemas. -/
def isSchemaList : Json → Bool
  | .array items => !items.isEmpty && areSchemas items
  | _ => false

/-- Whether the items of an array are schemas. -/
def areSchemas : List Json → Bool
  | [] => true
  | item :: rest => isWellFormed item && areSchemas rest

end

/-! ## References -/

/-- A text with codes of two digits after a percent sign as bytes, read as UTF-8. -/
def percentDecoded? (text : List Char) : Option (List Char) :=
  (String.fromUTF8? ⟨(bytes text).toArray⟩).map String.toList
where
  /-- The bytes of a text. -/
  bytes : List Char → List UInt8
    | '%' :: a :: b :: rest =>
      match Pattern.hexValue? a, Pattern.hexValue? b with
      | some a, some b => (16 * a + b).toUInt8 :: bytes rest
      | _, _ => '%'.toUInt8 :: bytes (a :: b :: rest)
    | c :: rest => c.toString.toUTF8.toList ++ bytes rest
    | [] => []

/-- The value at a place below another one. -/
def valueAt? : List (List Char) → Json → Option Json
  | [], value => some value
  | token :: rest, .object members => do
    valueAt? rest (← OrderedMap.value? members (String.ofList (JsonPointer.unescape token)))
  | token :: rest, .array items => do
    guard (!token.isEmpty ∧ token.all Char.isDigit)
    valueAt? rest (← items[token.foldl (fun n d => 10 * n + (d.toNat - 48)) 0]?)
  | _ :: _, _ => none

/-- What a reference within a document leads to: the document or, by a pointer, a place in it. -/
def target? (document : Json) (reference : String) : Option Json :=
  match reference.toList with
  | [] => some document
  | '#' :: rest => do
    match ← percentDecoded? rest with
    | [] => some document
    | '/' :: tokens => valueAt? (Address.splitOn '/' tokens) document
    | _ => none
  | _ => none

/-! ## Demands -/

/-- What a schema needs apart from keywords with admitted values. -/
inductive Demand where
  /-- A text is a pattern. -/
  | pattern (text : String)
  /-- A value is a reference that leads to a schema. -/
  | reference (value : Json)

mutual

/-- The demands of a schema.  A reference hides the other keywords. -/
def demands : Json → List Demand
  | .object members =>
    match OrderedMap.value? members "$ref" with
    | some reference => [.reference reference]
    | none => keywordDemands members
  | _ => []

/-- The demands of the values of keywords. -/
def keywordDemands : List (String × Json) → List Demand
  | [] => []
  | (key, value) :: rest =>
    (if key = "properties" ∨ key = "dependencies" then mapDemands value
      else if key = "patternProperties" then
        (match value with
          | .object members => members.map fun member => Demand.pattern member.1
          | _ => []) ++ mapDemands value
      else if key = "items" then demands value ++ listDemands value
      else if key = "oneOf" ∨ key = "anyOf" ∨ key = "allOf" then listDemands value
      else if key = "not" ∨ key = "additionalProperties" ∨ key = "additionalItems" then
        demands value
      else []) ++ keywordDemands rest

/-- The demands of the values in an object. -/
def mapDemands : Json → List Demand
  | .object members => memberDemands members
  | _ => []

/-- The demands of the values of members. -/
def memberDemands : List (String × Json) → List Demand
  | [] => []
  | (_, value) :: rest => demands value ++ memberDemands rest

/-- The demands of the items of an array. -/
def listDemands : Json → List Demand
  | .array items => itemDemands items
  | _ => []

/-- The demands of items. -/
def itemDemands : List Json → List Demand
  | [] => []
  | item :: rest => demands item ++ itemDemands rest

end

/-- Whether demands are met in a document.  References that were followed before are met; the
bound on the number of demands is never reached. -/
def areMet (document : Json) : Nat → List String → List Demand → Bool
  | _, _, [] => true
  | 0, _, _ => false
  | fuel + 1, followed, .pattern text :: rest =>
    (SchemaPattern.ofText? text).isSome && areMet document fuel followed rest
  | fuel + 1, followed, .reference (.string reference) :: rest =>
    if followed.contains reference then areMet document fuel followed rest
    else
      match target? document reference with
      | some schema =>
        isWellFormed schema && areMet document fuel (reference :: followed) (demands schema ++ rest)
      | none => false
  | _ + 1, _, .reference _ :: _ => false

mutual

/-- The number of values in a value. -/
def size : Json → Nat
  | .array items => itemsSize items + 1
  | .object members => membersSize members + 1
  | _ => 1

/-- The number of values in items. -/
def itemsSize : List Json → Nat
  | [] => 0
  | item :: rest => size item + itemsSize rest

/-- The number of values in members. -/
def membersSize : List (String × Json) → Nat
  | [] => 0
  | (_, value) :: rest => size value + membersSize rest

end

/-- Whether a value is a schema. -/
def isSchema (schema : Json) : Bool :=
  isWellFormed schema && areMet schema ((size schema + 1) * (size schema + 1)) [] (demands schema)

end Draft4

end ModelSchema
