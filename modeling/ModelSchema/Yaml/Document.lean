import ModelSchema.Yaml.Scalar
import ModelSchema.Json.Basic
import ModelSchema.Json.Reader

/-!
# YAML documents as JSON values

Infinities and not-a-number become null, keys become their text, and a repeated key keeps its first
place and its last value.  Tags outside the core schema, keys that are collections and integers
that do not fit 64 bits have no JSON value.
-/

namespace ModelSchema

namespace Yaml

/-- The JSON value that a scalar stands for. -/
def Value.toJson? : Value → Option Json
  | .null => some .null
  | .bool b => some (.bool b)
  | .int n => if Json.fitsInteger n then some (.int n) else none
  | .float (.finite x) => some (.number (.float x))
  | .float _ => some .null
  | .text s => some (.string s)

mutual

/-- The JSON value of a node. -/
def Node.toJson? : Node → Option Json
  | .nothing => some .null
  | .scalar tag style text => (value? tag style text).bind Value.toJson?
  | .sequence tag items =>
    if tag = some .foreign then none else (itemsToJson? items).map .array
  | .mapping tag entries =>
    if tag = some .foreign then none else (entriesToJson? [] entries).map .object

/-- The JSON values of items. -/
def itemsToJson? : List Node → Option (List Json)
  | [] => some []
  | item :: rest =>
    match item.toJson?, itemsToJson? rest with
    | some value, some values => some (value :: values)
    | _, _ => none

/-- Writes entries one after another into an object. -/
def entriesToJson? (written : List (String × Json)) :
    List (Node × Node) → Option (List (String × Json))
  | [] => some written
  | (key, value) :: rest =>
    match key, value.toJson? with
    | .scalar _ _ name, some v => entriesToJson? (OrderedMap.put written name v) rest
    | _, _ => none

end

/-- The JSON value of the only document of a text. -/
def parse? (text : String) : Option Json := (read? text).bind Node.toJson?

end Yaml

end ModelSchema
