import ModelSchema.Json.Basic

/-!
# Types and equality of values

The types that a schema may ask for, and equality as schemas see it: numbers are equal if their
values are, whether they are written with a fraction or not.
-/

namespace ModelSchema

namespace Draft4

/-- The names of types, in alphabetical order. -/
def typeNames : List String :=
  ["array", "boolean", "integer", "null", "number", "object", "string"]

/-- Whether a value has a type.  An integer is a number written as one. -/
def hasType (type : String) : Json → Bool
  | .null => type == "null"
  | .bool _ => type == "boolean"
  | .number (.int _) => type == "integer" || type == "number"
  | .number (.float _) => type == "number"
  | .string _ => type == "string"
  | .array _ => type == "array"
  | .object _ => type == "object"

/-- The strings of an array, other items being left out. -/
def strings : Json → List String
  | .array items => items.filterMap fun
    | .string s => some s
    | _ => none
  | _ => []

/-- The types that a schema admits. -/
def admittedTypes : Json → List String
  | .string type => [type]
  | other => strings other

mutual

/-- Equality of values. -/
def equals : Json → Json → Bool
  | .null, .null => true
  | .bool a, .bool b => a == b
  | .number a, .number b => a.units == b.units
  | .string a, .string b => a == b
  | .array a, .array b => equalItems a b
  | .object a, .object b => a.length == b.length && equalMembers a b
  | _, _ => false

/-- Equality of lists of values, item by item. -/
def equalItems : List Json → List Json → Bool
  | [], [] => true
  | a :: as, b :: bs => equals a b && equalItems as bs
  | _, _ => false

/-- Whether each member of a list has an equal partner of its name. -/
def equalMembers : List (String × Json) → List (String × Json) → Bool
  | [], _ => true
  | (name, a) :: rest, others =>
    (match OrderedMap.value? others name with
      | some b => equals a b
      | none => false) && equalMembers rest others

end

/-- Whether no value of a list occurs twice. -/
def allDifferent : List Json → Bool
  | [] => true
  | a :: rest => !rest.any (equals a) && allDifferent rest

end Draft4

end ModelSchema
