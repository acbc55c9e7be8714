/-!
# Tags

The tag of a YAML value is a sequence of bytes.  Those of the core schema decide the type of a
scalar; those that begin with an exclamation mark belong to some application.
-/

namespace ModelSchema

namespace Yaml

/-- What a tag says of the value after it. -/
inductive Tag where
  | null
  | bool
  | int
  | float
  /-- A type of some application. -/
  | foreign
  /-- The name of a type of some application, but not in UTF-8. -/
  | garbled
  /-- Any other tag, that of text among them. -/
  | other
deriving DecidableEq

namespace Tag

/-- What the handle `!!` stands for. -/
def core : String := "tag:yaml.org,2002:"

/-- The byte of the exclamation mark. -/
def mark : UInt8 := 0x21

/-- Whether bytes are text in UTF-8. -/
def isText (bytes : List UInt8) : Bool := (String.fromUTF8? ⟨bytes.toArray⟩).isSome

/-- What the bytes of a tag say. -/
def ofBytes (bytes : List UInt8) : Tag :=
  let isCore (name : String) : Bool := bytes == (core ++ name).toUTF8.toList
  if isCore "null" then null
  else if isCore "bool" then bool
  else if isCore "int" then int
  else if isCore "float" then float
  else
    match bytes with
    | first :: rest => if first ≠ mark then other else if isText rest then foreign else garbled
    | [] => other

end Tag

end Yaml

end ModelSchema
