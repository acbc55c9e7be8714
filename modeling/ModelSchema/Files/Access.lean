/-!
# Access to files

Commands read and write files by path and know nothing else of the system they run in.
`FileAccess` is what they need of it; a refusal comes with the system's reason in words.
-/

namespace ModelSchema

/-- Reading the text of a file, and writing one. -/
structure FileAccess (m : Type → Type) where
  read : String → m (Except String String)
  write : String → String → m (Except String Unit)

namespace FilePath

/-- The parts of a path between slashes. -/
def parts : List Char → List String
  | [] => [""]
  | c :: rest =>
    if c = '/' then "" :: parts rest
    else
      match parts rest with
      | [] => [c.toString]
      | part :: others => (c.toString ++ part) :: others

/-- The name of the file at the end of a path. -/
def fileName? (path : String) : Option String :=
  (((parts path.toList).filter fun part => part ≠ "" ∧ part ≠ ".").getLast?).filter (· ≠ "..")

/-- Whether the name of the file ends in the extension of JSON.  A name that is nothing but the
extension has none. -/
def isJson (path : String) : Bool :=
  match fileName? path with
  | some name => name.endsWith ".json" && name ≠ ".json"
  | none => false

end FilePath

end ModelSchema
