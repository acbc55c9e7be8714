import ModelSchema.Json.Pointer
import ModelSchema.Schema.Draft4.Validation

/-!
# Violations

A violation tells a reader where a document does not conform to the schema of a model: the field
it concerns, the place, the keyword and a message.
-/

namespace ModelSchema

/-- A place in a document that does not conform. -/
structure Violation where
  field : Option String
  pointer : String
  keyword : String
  message : String
deriving DecidableEq

namespace Violation

/-- The violation for a failure.  A member that is missing in the document itself is the field;
otherwise the field is the first step to the place. -/
def ofFailure (f : Draft4.Failure) : Violation :=
  let pointer := JsonPointer.render f.path
  let field :=
    match f.missing, f.path with
    | some name, [] => some name
    | _, _ => JsonPointer.firstSegment? pointer
  ⟨field, pointer, f.keyword, f.message⟩

/-- A pointer without the slashes at its start. -/
def withoutSlashes (pointer : String) : String :=
  String.ofList (pointer.toList.dropWhile (· == '/'))

/-- Whether a pointer is shown: not if it says no more than its first step. -/
def showsPointer (pointer : String) : Bool :=
  JsonPointer.firstSegment? pointer != some (withoutSlashes pointer)

/-- The line for a violation. -/
def display (v : Violation) : String :=
  v.field.getD "<document>" ++
    (if showsPointer v.pointer then
      " at " ++ (if v.pointer.isEmpty then "/" else v.pointer) else "") ++
    ": " ++ v.message ++ " [" ++ v.keyword ++ "]"

end Violation

namespace Violations

/-- The lines of violations, each after a dash. -/
def display (violations : List Violation) : String :=
  "\n".intercalate (violations.map fun v => "  - " ++ v.display)

/-- The report on a document that does not conform to a model. -/
def report (model : String) (violations : List Violation) : String :=
  s!"document does not conform to model '{model}':\n" ++ display violations

/-- Puts a name into an ordered list without repetition. -/
def insertName (name : String) : List String → List String
  | [] => [name]
  | other :: rest =>
    if name < other then name :: other :: rest
    else if name = other then other :: rest
    else other :: insertName name rest

/-- The fields that violations concern, in order and each once. -/
def fields (violations : List Violation) : List String :=
  (violations.filterMap (·.field)).foldr insertName []

end Violations

/-- The violations of a document under a schema; none if there is no schema to check with. -/
def violations? (schema document : Json) : Option (List Violation) :=
  if Draft4.isSchema schema then some ((Draft4.failures schema document).map .ofFailure)
  else none

end ModelSchema
