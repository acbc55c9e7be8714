import ModelSchema.Manifest.Encoding
import ModelSchema.Json.Reader
import ModelSchema.Yaml.Document

/-!
# Manifests in JSON and YAML

In JSON every record may also be an array of its parts, and only null leaves an option out.  In
YAML any scalar is a text where a text is expected, a value that is not written is an empty list or
record, and records have names.
-/

namespace ModelSchema

/-! ## JSON -/

namespace Json

mutual

/-- A JSON value as content. -/
def content : Json → Content
  | .null => .null
  | .bool b => .bool b
  | .number (.int n) => .int n
  | .number (.float x) => .float (.finite x)
  | .string s => .text s
  | .array items => .list (contentItems items)
  | .object members => .record (contentMembers members)

/-- The items of an array as content. -/
def contentItems : List Json → List Content
  | [] => []
  | item :: rest => content item :: contentItems rest

/-- The members of an object as content. -/
def contentMembers : List (String × Json) → List (Content × Content)
  | [] => []
  | (name, value) :: rest => (.text name, content value) :: contentMembers rest

end

/-- Manifests in JSON. -/
def encoding : Encoding Json where
  record? names
    | .object members => some members
    | .array items => positional? names items
    | _ => none
  list?
    | .array items => some items
    | _ => none
  text?
    | .string s => some s
    | _ => none
  bool?
    | .bool b => some b
    | _ => none
  present?
    | .null => some none
    | value => some (some value)
  content? value := some value.content
  named? key
    | .object members =>
      match members.partition (·.1 = key) with
      | ([(_, .string name)], others) => some (name, .byKey (contentMembers others))
      | _ => none
    | .array (.string name :: values) => some (name, .inOrder (contentItems values))
    | _ => none

end Json

/-! ## YAML -/

namespace Yaml

/-- A scalar as content. -/
def Value.content? : Value → Option Content
  | .null => some .null
  | .bool b => some (.bool b)
  | .int n => if Json.fitsInteger n then some (.int n) else none
  | .float x => some (.float x)
  | .text s => some (.text s)

mutual

/-- A node as content; tags outside the core schema are refused. -/
def Node.content? : Node → Option Content
  | .nothing => some .null
  | .scalar tag style text => (value? tag style text).bind Value.content?
  | .sequence tag items =>
    if tag = some .foreign then none else (contentItems? items).map .list
  | .mapping tag entries =>
    if tag = some .foreign then none else (contentEntries? entries).map .record

/-- The items of a sequence as content. -/
def contentItems? : List Node → Option (List Content)
  | [] => some []
  | item :: rest =>
    match item.content?, contentItems? rest with
    | some value, some values => some (value :: values)
    | _, _ => none

/-- The entries of a mapping as content. -/
def contentEntries? : List (Node × Node) → Option (List (Content × Content))
  | [] => some []
  | (key, value) :: rest =>
    match key.content?, value.content?, contentEntries? rest with
    | some k, some v, some others => some ((k, v) :: others)
    | _, _, _ => none

end

/-- Whether a node is not written at all. -/
def Node.isUnwritten : Node → Bool
  | .nothing => true
  | .scalar _ style text => style = .plain && text.isEmpty
  | _ => false

/-- The text of a scalar, whatever it stands for. -/
def Node.text? : Node → Option String
  | .scalar _ _ text => some text
  | _ => none

/-- An optional value.  It is left out by a plain scalar without a tag that is null or not written,
and by one with the tag of null, which must be null. -/
def Node.present? : Node → Option (Option Node)
  | .nothing => some none
  | .scalar none .plain text =>
    if text.isEmpty ∨ isNull text then some none else some (some (.scalar none .plain text))
  | .scalar (some .null) .plain text => if isNull text then some none else none
  | value => some (some value)

/-- Splits the entries of a mapping into the values under a key and the others, which are read as
content. -/
def splitEntries? (key : String) :
    List (Node × Node) → Option (List Node × List (Content × Content))
  | [] => some ([], [])
  | (k, value) :: rest => do
    let k ← k.content?
    let isKey := match k with
      | .text name => name == key
      | _ => false
    if isKey then
      let (values, others) ← splitEntries? key rest
      return (value :: values, others)
    else
      let value ← value.content?
      let (values, others) ← splitEntries? key rest
      return (values, (k, value) :: others)

/-- The text under a key of a mapping, or at the head of a sequence, with what else is there. -/
def Node.named? (key : String) : Node → Option (String × Parameters)
  | .mapping tag entries =>
    if tag = some .foreign then none
    else do
      match ← splitEntries? key entries with
      | ([value], others) => return (← value.text?, .byKey others)
      | _ => none
  | .sequence tag (head :: values) =>
    if tag = some .foreign then none
    else do return (← head.text?, .inOrder (← contentItems? values))
  | _ => none

/-- Manifests in YAML. -/
def encoding : Encoding Node where
  record? _
    | .mapping _ entries => entries.mapM fun (key, value) => key.text?.map fun k => (k, value)
    | other => if other.isUnwritten then some [] else none
  list?
    | .sequence _ items => some items
    | other => if other.isUnwritten then some [] else none
  text? := Node.text?
  bool?
    | .scalar tag style text =>
      if style = .plain ∨ (style = .literal ∧ tag = some .bool) then
        Yaml.bool? text
      else none
    | _ => none
  present? := Node.present?
  content? := Node.content?
  named? := Node.named?

end Yaml

/-! ## Texts -/

namespace Manifest

/-- Reads a manifest in JSON. -/
def ofJson? (text : String) : Option Manifest := (Json.read? text).bind Json.encoding.manifest?

/-- Reads a manifest in YAML. -/
def ofYaml? (text : String) : Option Manifest := (Yaml.read? text).bind Yaml.encoding.manifest?

end Manifest

end ModelSchema
