import ModelSchema.Json.Printer
import ModelSchema.Schema.Draft4.Type
import ModelSchema.Schema.Format

/-!
# What a keyword finds wrong

A failure says where a value does not conform, under which keyword, and how.
`Draft4.plainFailures` gives the failures of a value under a keyword that holds no schema.

Numbers are compared exactly, and lengths count characters of strings only.
-/

namespace ModelSchema

namespace Draft4

/-- Something wrong with a value: where, under which keyword, and the member that is missing. -/
structure Failure where
  path : List String
  keyword : String
  missing : Option String
  message : String
deriving DecidableEq

namespace Failure

/-- A failure of the value itself. -/
def here (keyword message : String) : Failure := ⟨[], keyword, none, message⟩

/-- The failure seen from one level further out. -/
def under (token : String) (f : Failure) : Failure := { f with path := token :: f.path }

end Failure

/-- The failure of the value itself unless a condition holds. -/
def failUnless (holds : Bool) (keyword message : String) : List Failure :=
  if holds then [] else [.here keyword message]

/-! ## Messages -/

/-- A count of things. -/
def counted (n : Int) (one many : String) : String := s!"{n} " ++ if n = 1 then one else many

/-- A count of characters. -/
def characters (n : Int) : String := counted n "character" "characters"

/-- What a value is called in a message about its types. -/
def typeMessage (types : List String) (value : Json) : String :=
  match types with
  | [type] => value.compact ++ " is not of type " ++ Json.quoted type
  | _ =>
    let sorted := typeNames.filter types.contains
    value.compact ++ " is not of types " ++ ", ".intercalate (sorted.map Json.quoted)

/-- The values to choose from, up to three of them. -/
def optionsText (options : List Json) : String :=
  let shown := if options.length ≤ 3 then options.length else 2
  let texts := (options.take shown).map Json.compact
  if shown < options.length then
    ", ".intercalate texts ++ s!" or {options.length - shown} other candidates"
  else
    match texts.reverse with
    | last :: before :: rest => ", ".intercalate (before :: rest).reverse ++ " or " ++ last
    | _ => ", ".intercalate texts

/-- What was not expected, in parentheses. -/
def unexpected (what : List String) : String :=
  "(" ++ ", ".intercalate what ++ (if what.length = 1 then " was" else " were") ++ " unexpected)"

/-- The message of a search for a pattern that was given up. -/
def exhaustedMessage : String :=
  "Error executing regex: Max limit for backtracking count exceeded"

/-! ## Numbers -/

/-- Whether a bound excludes itself. -/
def isExclusive (siblings : Json.Members) (key : String) : Bool :=
  match OrderedMap.value? siblings key with
  | some (.bool b) => b
  | _ => false

/-- Failures of numbers under a lower bound. -/
def belowFailures (exclusive : Bool) (bound : Number) : Json → List Failure
  | .number n =>
    if exclusive then
      if bound.units < n.units then []
      else [.here "exclusiveMinimum" (n.text ++ " is less than or equal to the minimum of " ++
        bound.text)]
    else if bound.units ≤ n.units then []
    else [.here "minimum" (n.text ++ " is less than the minimum of " ++ bound.text)]
  | _ => []

/-- Failures of numbers over an upper bound. -/
def aboveFailures (exclusive : Bool) (bound : Number) : Json → List Failure
  | .number n =>
    if exclusive then
      if n.units < bound.units then []
      else [.here "exclusiveMaximum" (n.text ++ " is greater than or equal to the maximum of " ++
        bound.text)]
    else if n.units ≤ bound.units then []
    else [.here "maximum" (n.text ++ " is greater than the maximum of " ++ bound.text)]
  | _ => []

/-- Whether a double is a multiple of another one.  A multiple of what is no integer may miss it by
as much as a quotient can be rounded. -/
def isMultiple (n step : Binary64) : Bool :=
  if step.toInt?.isSome then n.units % step.units == 0
  else
    match n.div? step with
    | some quotient =>
      (quotient.units.natAbs % Binary64.unitsOfOne.natAbs) <<< 52 < Binary64.unitsOfOne.natAbs
    | none => n.units % step.units == 0

/-! ## Keywords without schemas -/

/-- Failures of a value under a keyword that holds no schema. -/
def plainFailures (siblings : Json.Members) (key : String) (rule value : Json) :
    List Failure :=
  match key, rule, value with
  | "type", rule, value =>
    let types := admittedTypes rule
    if types.any (hasType · value) then [] else [.here "type" (typeMessage types value)]
  | "enum", .array options, value =>
    failUnless (options.any (equals · value)) key
      (value.compact ++ " is not one of " ++ optionsText options)
  | "required", rule, .object members =>
    ((strings rule).filter fun name => !OrderedMap.has members name).map fun name =>
      ⟨[], "required", some name, Json.quoted name ++ " is a required property"⟩
  | "minimum", .number bound, value =>
    belowFailures (isExclusive siblings "exclusiveMinimum") bound value
  | "maximum", .number bound, value =>
    aboveFailures (isExclusive siblings "exclusiveMaximum") bound value
  | "multipleOf", .number step, .number n =>
    failUnless (isMultiple n.toBinary64 step.toBinary64) key
      (n.text ++ " is not a multiple of " ++ FloatLayout.plain.text step.toBinary64)
  | "minLength", .number (.int least), .string s =>
    if least ≤ s.length then []
    else [.here "minLength" (Json.quoted s ++ " is shorter than " ++ characters least)]
  | "maxLength", .number (.int most), .string s =>
    if s.length ≤ most then []
    else [.here "maxLength" (Json.quoted s ++ " is longer than " ++ characters most)]
  | "pattern", .string text, .string s =>
    match (SchemaPattern.ofText? text).map (SchemaPattern.search · s) with
    | some .found => []
    | some .exhausted => [.here "pattern" exhaustedMessage]
    | _ => [.here "pattern" (Json.quoted s ++ " does not match \"" ++ text ++ "\"")]
  | "format", .string format, .string s =>
    if Format.holds format s then []
    else [.here "format" (Json.quoted s ++ " is not a " ++ Json.quoted format)]
  | "minItems", .number (.int least), .array items =>
    failUnless (least ≤ items.length) key
      ((Json.array items).compact ++ " has less than " ++ counted least "item" "items")
  | "maxItems", .number (.int most), .array items =>
    failUnless (items.length ≤ most) key
      ((Json.array items).compact ++ " has more than " ++ counted most "item" "items")
  | "uniqueItems", .bool true, .array items =>
    failUnless (allDifferent items) key
      ((Json.array items).compact ++ " has non-unique elements")
  | "minProperties", .number (.int least), .object members =>
    failUnless (least ≤ members.length) key
      ((Json.object members).compact ++ " has less than " ++
        counted least "property" "properties")
  | "maxProperties", .number (.int most), .object members =>
    failUnless (members.length ≤ most) key
      ((Json.object members).compact ++ " has more than " ++
        counted most "property" "properties")
  | _, _, _ => []

end Draft4

end ModelSchema
