import ModelSchema.Files.Access

/-!
# File trees

A file tree holds files by the places where they are, and a directory is there as long as a file
is below it.  Its access answers as a file system would, so that commands can be run on a tree as
on a disk.

Paths start in the directory where the tree is unpacked.  The directories above it are there too,
as is the one at the top of the file system, but nothing is known of what else they hold.
-/

namespace ModelSchema

/-- Where a place is counted from: the top of the file system, or the directory some levels above
the working directory. -/
inductive Anchor where
  | top
  | above (levels : Nat)
deriving DecidableEq

/-- A place in the file system: the names that lead to it from an anchor. -/
structure Place where
  anchor : Anchor
  names : List String
deriving DecidableEq

namespace Place

/-- The working directory. -/
def working : Place := ⟨.above 0, []⟩

/-- The directory that a place is in.  The top is in itself. -/
def parent (p : Place) : Place :=
  match p.anchor, p.names with
  | .top, [] => p
  | .above levels, [] => ⟨.above (levels + 1), []⟩
  | anchor, names => ⟨anchor, names.dropLast⟩

/-- The place of a name in a directory. -/
def child (p : Place) (name : String) : Place := { p with names := p.names ++ [name] }

end Place

/-- Files with the places where they are. -/
structure FileTree where
  files : List (Place × ByteArray)

namespace FileTree

/-- What is at a place. -/
inductive Entry where
  | file (bytes : ByteArray)
  | directory
  | nothing

/-- Why there is no access. -/
inductive Refusal where
  | missing | notDirectory | isDirectory | nameTooLong | nulByte | notText
deriving DecidableEq

/-- The reason in words. -/
def Refusal.text : Refusal → String
  | missing => "No such file or directory (os error 2)"
  | notDirectory => "Not a directory (os error 20)"
  | isDirectory => "Is a directory (os error 21)"
  | nameTooLong => "File name too long (os error 36)"
  | nulByte => "file name contained an unexpected NUL byte"
  | notText => "stream did not contain valid UTF-8"

/-- What is at a place. -/
def entry (tree : FileTree) (place : Place) : Entry :=
  match tree.files.lookup place with
  | some bytes => .file bytes
  | none =>
    if place.names.isEmpty ||
        tree.files.any fun (other, _) =>
          other.anchor = place.anchor && place.names.isPrefixOf other.names then .directory
    else .nothing

/-- How many bytes a name may have. -/
def nameLimit : Nat := 255

/-- How many bytes a path may have. -/
def pathLimit : Nat := 4095

/-- Requires that names can be looked up at a place. -/
def requireDirectory (tree : FileTree) (place : Place) : Except Refusal Unit :=
  match tree.entry place with
  | .file _ => .error .notDirectory
  | .nothing => .error .missing
  | .directory => .ok ()

/-- The place that a part of a path leads to from a directory: one dot stays there, two go one
level up. -/
def step (tree : FileTree) (place : Place) (part : String) : Except Refusal Place := do
  tree.requireDirectory place
  if part = "." then return place
  else if part = ".." then return place.parent
  else if nameLimit < part.utf8ByteSize then throw .nameTooLong
  else return place.child part

/-- A path in parts. -/
structure Route where
  start : Place
  parts : List String
  /-- A slash at the end of the path asks for a directory. -/
  toDirectory : Bool

/-- The parts of a path.  Parts without a name are skipped. -/
def route (path : String) : Except Refusal Route :=
  let cs := path.toList
  if cs.contains '\x00' then .error .nulByte
  else if pathLimit < path.utf8ByteSize then .error .nameTooLong
  else if cs.isEmpty then .error .missing
  else
    .ok ⟨if cs.head? = some '/' then ⟨.top, []⟩ else .working,
      (FilePath.parts cs).filter (· ≠ ""), cs.getLast? = some '/'⟩

/-- The place at the end of a route. -/
def follow (tree : FileTree) (route : Route) : Except Refusal Place := do
  let place ← route.parts.foldlM tree.step route.start
  if route.toDirectory then tree.requireDirectory place
  return place

/-- The text of a file. -/
def read (tree : FileTree) (path : String) : Except Refusal String := do
  match tree.entry (← tree.follow (← route path)) with
  | .file bytes =>
    match String.fromUTF8? bytes with
    | some text => return text
    | none => throw .notText
  | .directory => throw .isDirectory
  | .nothing => throw .missing

/-- The place where a file is written.  A name with a slash after it is taken for a directory,
whatever is there. -/
def target (tree : FileTree) (route : Route) : Except Refusal Place := do
  match route.parts.getLast? with
  | none => throw .isDirectory
  | some last =>
    let place ← route.parts.dropLast.foldlM tree.step route.start
    tree.requireDirectory place
    if route.toDirectory ∧ last ≠ "." ∧ last ≠ ".." then throw .isDirectory
    tree.step place last

/-- The tree with a file of a text, new or in place of the one that was there. -/
def write (tree : FileTree) (path text : String) : Except Refusal FileTree := do
  let place ← tree.target (← route path)
  match tree.entry place with
  | .directory => throw .isDirectory
  | _ => return ⟨(place, text.toUTF8) :: tree.files.filter (·.1 ≠ place)⟩

/-- Access to the tree that is the state. -/
def access : FileAccess (StateM FileTree) where
  read path := do return ((← get).read path).mapError Refusal.text
  write path text := do
    match (← get).write path text with
    | .ok tree => set tree; return .ok ()
    | .error refusal => return .error refusal.text

/-- The tree with files at paths below the working directory. -/
def ofList (files : List (String × ByteArray)) : FileTree :=
  ⟨files.map fun (path, bytes) =>
    (⟨.above 0, (FilePath.parts path.toList).filter fun part => part ≠ "" ∧ part ≠ "."⟩, bytes)⟩

end FileTree

end ModelSchema
