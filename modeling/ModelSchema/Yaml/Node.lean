import ModelSchema.Yaml.Tree

/-!
# YAML documents without aliases

A node is a tree in which every alias is replaced by what its anchor marks.  Collections nest up to
128 levels deep, and there are at most a hundred replacements for each part of the document.

An anchor is numbered by how many different names were used before it.  A name that is used again
thus gets the number that the next new name gets too, and of two anchors with one number the later
counts.
-/

namespace ModelSchema

namespace Yaml

/-- A document without aliases. -/
inductive Node where
  /-- A text that holds no document. -/
  | nothing
  | scalar (tag : Option Tag) (style : Style) (text : String)
  | sequence (tag : Option Tag) (items : List Node)
  | mapping (tag : Option Tag) (entries : List (Node × Node))

/-! ## Numbering anchors -/

/-- The numbers of the names used so far. -/
abbrev Numbering := StateT (List (String × Nat)) Option

/-- Numbers an anchor. -/
def numberAnchor : Option String → Numbering (Option Nat)
  | none => return none
  | some name => do
    let names ← get
    let number := names.length
    set ((name, number) :: names.filter (·.1 ≠ name))
    return some number

mutual

/-- Numbers the anchors of a tree; an alias must name an anchor before it. -/
def number : Tree String → Numbering (Tree Nat)
  | .alias name => do
    match (← get).lookup name with
    | some n => return .alias n
    | none => failure
  | .scalar anchor tag style text => return .scalar (← numberAnchor anchor) tag style text
  | .sequence anchor tag items => do
    let n ← numberAnchor anchor
    return .sequence n tag (← numberItems items)
  | .mapping anchor tag entries => do
    let n ← numberAnchor anchor
    return .mapping n tag (← numberEntries entries)

/-- Numbers the anchors of items. -/
def numberItems : List (Tree String) → Numbering (List (Tree Nat))
  | [] => return []
  | item :: rest => return (← number item) :: (← numberItems rest)

/-- Numbers the anchors of entries. -/
def numberEntries : List (Tree String × Tree String) → Numbering (List (Tree Nat × Tree Nat))
  | [] => return []
  | (key, value) :: rest =>
    return (← number key, ← number value) :: (← numberEntries rest)

end

/-! ## Replacing aliases -/

mutual

/-- The marked parts of a tree, in the order in which they begin. -/
def marked : Tree Nat → List (Nat × Tree Nat)
  | .alias _ => []
  | .scalar anchor tag style text =>
    (anchor.map fun n => (n, Tree.scalar anchor tag style text)).toList
  | .sequence anchor tag items =>
    (anchor.map fun n => (n, Tree.sequence anchor tag items)).toList ++ markedItems items
  | .mapping anchor tag entries =>
    (anchor.map fun n => (n, Tree.mapping anchor tag entries)).toList ++ markedEntries entries

/-- The marked parts of items. -/
def markedItems : List (Tree Nat) → List (Nat × Tree Nat)
  | [] => []
  | item :: rest => marked item ++ markedItems rest

/-- The marked parts of entries. -/
def markedEntries : List (Tree Nat × Tree Nat) → List (Nat × Tree Nat)
  | [] => []
  | (key, value) :: rest => marked key ++ marked value ++ markedEntries rest

end

mutual

/-- The number of parts of a tree: a collection has a start and an end. -/
def parts {α : Type} : Tree α → Nat
  | .alias _ => 1
  | .scalar _ _ _ _ => 1
  | .sequence _ _ items => 2 + partsOfItems items
  | .mapping _ _ entries => 2 + partsOfEntries entries

/-- The number of parts of items. -/
def partsOfItems {α : Type} : List (Tree α) → Nat
  | [] => 0
  | item :: rest => parts item + partsOfItems rest

/-- The number of parts of entries. -/
def partsOfEntries {α : Type} : List (Tree α × Tree α) → Nat
  | [] => 0
  | (key, value) :: rest => parts key + parts value + partsOfEntries rest

end

/-- The number of replacements that may still be made. -/
abbrev Replacing := StateT Nat Option

/-- What a tree stands for: itself, or what its alias stands for. -/
def target (places : List (Nat × Tree Nat)) : Tree Nat → Replacing (Tree Nat)
  | .alias n => do
    let left ← get
    if left = 0 then failure
    set (left - 1)
    match places.lookup n with
    | some tree => return tree
    | none => failure
  | tree => return tree

/-- Replaces the aliases of a tree in which at most `depth` levels of collections nest. -/
def replace (places : List (Nat × Tree Nat)) : Nat → Tree Nat → Replacing Node
  | 0, tree => do
    match ← target places tree with
    | .scalar _ tag style text => return .scalar tag style text
    | _ => failure
  | depth + 1, tree => do
    match ← target places tree with
    | .scalar _ tag style text => return .scalar tag style text
    | .sequence _ tag items => return .sequence tag (← items.mapM (replace places depth))
    | .mapping _ tag entries =>
      return .mapping tag (← entries.mapM fun (key, value) =>
        return (← replace places depth key, ← replace places depth value))
    | .alias _ => failure

/-- How many levels collections may nest. -/
def depthLimit : Nat := 128

/-- The only document of a text; a text may also hold none. -/
def read? (text : String) : Option Node := do
  match ← trees? text with
  | [] => return .nothing
  | [tree] =>
    let (tree, _) ← (number tree).run []
    let (node, _) ← (replace (marked tree).reverse depthLimit tree).run (100 * parts tree)
    return node
  | _ => none

end Yaml

end ModelSchema
