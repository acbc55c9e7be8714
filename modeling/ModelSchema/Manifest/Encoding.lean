import ModelSchema.Manifest.Basic

/-!
# Reading manifests

Manifests are written in JSON or YAML.  An `Encoding` says how the parts of a manifest look in a
notation; `Manifest.decode?` puts them together.  Every part is strict: a name that is not known,
a name given twice or a value of the wrong type makes the manifest unreadable.

Parts that admit several types of value, namely targets and the parameters of rules, are first
read as `Content`, which keeps whatever was written.
-/

namespace ModelSchema

/-- A value of any type as it was written. -/
inductive Content where
  | null
  | bool (value : Bool)
  | int (value : Int)
  | float (value : Double)
  | text (value : String)
  | list (items : List Content)
  | record (entries : List (Content × Content))

/-- What a rule is given: by key, or in a fixed order. -/
inductive Parameters where
  | byKey (entries : List (Content × Content))
  | inOrder (values : List Content)

/-- How the parts of a manifest look in a notation with values of type `ν`. -/
structure Encoding (ν : Type) where
  /-- The named parts of a record, which may also be given without names in a fixed order. -/
  record? : List String → ν → Option (List (String × ν))
  list? : ν → Option (List ν)
  text? : ν → Option String
  bool? : ν → Option Bool
  /-- An optional value, which may be left out. -/
  present? : ν → Option (Option ν)
  content? : ν → Option Content
  /-- The text under a key of a record, or at the head of a list, with what else is there. -/
  named? : String → ν → Option (String × Parameters)

/-! ## Records -/

/-- Whether every entry has a known name, and no name has two entries. -/
def areParts {α : Type} (names : List String) : List (String × α) → Bool
  | [] => true
  | (name, _) :: rest =>
    names.contains name && !rest.any (·.1 == name) && areParts names rest

/-- Values in the order of their names; no more values than names. -/
def positional? {α : Type} (names : List String) (values : List α) :
    Option (List (String × α)) :=
  if values.length ≤ names.length then some (names.zip values) else none

/-- A part that may be missing. -/
def part? {α β : Type} (parts : List (String × α)) (name : String) (default : β)
    (read : α → Option β) : Option β :=
  match parts.lookup name with
  | some value => read value
  | none => some default

/-- A part that must be there. -/
def requiredPart? {α β : Type} (parts : List (String × α)) (name : String)
    (read : α → Option β) : Option β :=
  (parts.lookup name).bind read

/-! ## Targets and rules -/

namespace Content

/-- A text. -/
def text? : Content → Option String
  | text s => some s
  | _ => none

/-- A boolean. -/
def bool? : Content → Option Bool
  | bool b => some b
  | _ => none

/-- A natural number of 64 bits. -/
def count? : Content → Option Nat
  | int n => if 0 ≤ n ∧ n < (1 <<< 64 : Nat) then some n.toNat else none
  | _ => none

/-- A natural number of 64 bits, or null. -/
def optionalCount? : Content → Option (Option Nat)
  | null => some none
  | other => other.count?.map some

/-- A bound: integers of 64 bits without a sign that need the last bit become doubles. -/
def bound? : Content → Option WrittenBound
  | int n =>
    if -(1 <<< 63 : Nat) ≤ n ∧ n < (1 <<< 64 : Nat) then some (.ofNumber (.int n)) else none
  | float x => some (.float x)
  | _ => none

/-- A target: a text or a list of texts. -/
def target? : Content → Option TargetEntry
  | text name => some (.one name)
  | list items => (items.mapM text?).map .many
  | _ => none

/-- The names of the parameters of a rule, in their order. -/
def parameters? (rule : String) : Option (List String) :=
  match rule with
  | "min" => some ["bound", "exclusive"]
  | "max" => some ["bound", "exclusive"]
  | "regex" => some ["pattern", "ignorecase"]
  | "length" => some ["min", "max"]
  | _ => none

/-- The rule with a name and parameters. -/
def ruleOf? (rule : String) (parts : List (String × Content)) : Option Rule :=
  match rule with
  | "min" => do
    return .min (← requiredPart? parts "bound" bound?) (← part? parts "exclusive" false bool?)
  | "max" => do
    return .max (← requiredPart? parts "bound" bound?) (← part? parts "exclusive" false bool?)
  | "regex" => do
    return .regex (← requiredPart? parts "pattern" text?)
      (← part? parts "ignorecase" false bool?)
  | "length" => do
    return .length (← requiredPart? parts "min" count?)
      (← part? parts "max" none optionalCount?)
  | _ => none

/-- The parameter that a key names, by its text or by its place. -/
def parameterName? (names : List String) : Content → Option String
  | text s => some s
  | int n => if 0 ≤ n then names[n.toNat]? else none
  | _ => none

end Content

/-- The rule with a name and parameters. -/
def Parameters.rule? (rule : String) : Parameters → Option Rule
  | byKey entries => do
    let names ← Content.parameters? rule
    let parts ← entries.mapM fun (key, value) =>
      (Content.parameterName? names key).map fun name => (name, value)
    if areParts names parts then Content.ruleOf? rule parts else none
  | inOrder values => do
    let names ← Content.parameters? rule
    Content.ruleOf? rule (← positional? names values)

/-! ## Manifests -/

namespace Encoding

variable {ν : Type}

/-- The parts of a record with known names, none given twice. -/
def parts? (e : Encoding ν) (names : List String) (value : ν) : Option (List (String × ν)) :=
  (e.record? names value).filter (areParts names)

/-- A value that may be left out. -/
def optional? {β : Type} (e : Encoding ν) (read : ν → Option β) (value : ν) :
    Option (Option β) := do
  match ← e.present? value with
  | some present => (read present).map some
  | none => return none

/-- A rule: its name stands under the key `rule`, or comes first. -/
def rule? (e : Encoding ν) (value : ν) : Option Rule :=
  (e.named? "rule" value).bind fun (rule, parameters) => parameters.rule? rule

/-- A list of parts. -/
def listOf? {β : Type} (e : Encoding ν) (read : ν → Option β) (value : ν) : Option (List β) :=
  (e.list? value).bind fun items => items.mapM read

/-- A declared field. -/
def field? (e : Encoding ν) (value : ν) : Option FieldEntry := do
  let parts ← e.parts? ["name", "kind", "required", "target", "validators"] value
  return {
    name := ← requiredPart? parts "name" e.text?
    kind := ← requiredPart? parts "kind" e.text?
    required := ← part? parts "required" false e.bool?
    target := ← part? parts "target" none
      (e.optional? fun v => (e.content? v).bind Content.target?)
    rules := ← part? parts "validators" []
      (e.listOf? e.rule?) }

/-- A declared model. -/
def model? (e : Encoding ν) (value : ν) : Option ModelEntry := do
  let parts ← e.parts? ["name", "extends", "fields"] value
  return {
    name := ← requiredPart? parts "name" e.text?
    parent := ← part? parts "extends" none (e.optional? e.text?)
    fields := ← part? parts "fields" [] (e.listOf? e.field?) }

/-- A manifest. -/
def manifest? (e : Encoding ν) (value : ν) : Option Manifest := do
  let parts ← e.parts? ["models"] value
  return ⟨← requiredPart? parts "models" (e.listOf? e.model?)⟩

end Encoding

end ModelSchema
