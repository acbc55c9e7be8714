import ModelSchema.Pattern.Basic

/-!
# Patterns as they are written

`Pattern.Written` is the structure of a text in the notation of patterns, before anything in it
has got a meaning: switches stand where they were written, a shorthand keeps the place where it
was found, and a property is known by its name only.

Parts may be nested up to a fixed depth (`Written.nesting`).
-/

namespace ModelSchema

namespace Pattern

/-- How a character is written. -/
inductive Spelling where
  /-- As itself, by a letter or by its code. -/
  | plain
  /-- By two hexadecimal digits. -/
  | byte
  /-- By the escape of the bell. -/
  | bell
deriving DecidableEq

/-- A character in a pattern. -/
structure Literal where
  char : Char
  spelling : Spelling
deriving DecidableEq

/-- The kinds of characters that have an escape of their own. -/
inductive Kind where
  | digit
  | space
  | word
deriving DecidableEq

/-- An escape for a kind of characters, or for all others, and the place of its backslash. -/
structure Shorthand where
  kind : Kind
  negated : Bool
  place : Nat
deriving DecidableEq

/-- A property by name. -/
inductive PropertyName where
  | name (name : List Char)
  | value (property value : List Char) (unequal : Bool)
deriving DecidableEq

/-- An escape for the characters with a property, or for those without it. -/
structure PropertyEscape where
  name : PropertyName
  negated : Bool
deriving DecidableEq

/-- How two parts of a bracket expression are joined. -/
inductive SetOperation where
  | inter
  | diff
  | symmDiff
deriving DecidableEq

/-- What stands between brackets. -/
inductive SetItem where
  | literal (l : Literal)
  | range (first last : Literal)
  /-- A set of ASCII characters by name. -/
  | named (set : CharSet) (negated : Bool)
  | shorthand (s : Shorthand)
  | property (p : PropertyEscape)
  /-- Items one after another. -/
  | union (items : List SetItem)
  | bracket (negated : Bool) (content : SetItem)
  | operation (op : SetOperation) (left right : SetItem)

/-- A switch of the notation. -/
inductive Switch where
  | ignoreCase
  | multiLine
  | dotNewline
  | swapGreed
  | unicode
  | verbose
  | carriageReturn
deriving DecidableEq

/-- A switch that is turned on or off. -/
structure Setting where
  switch : Switch
  on : Bool
deriving DecidableEq

/-- The letter of a switch. -/
def Switch.ofLetter? : Char → Option Switch
  | 'i' => some .ignoreCase
  | 'm' => some .multiLine
  | 's' => some .dotNewline
  | 'U' => some .swapGreed
  | 'u' => some .unicode
  | 'x' => some .verbose
  | 'R' => some .carriageReturn
  | _ => none

/-- A condition as it is written. -/
inductive Anchor where
  | lineStart
  | lineEnd
  | textStart
  | textEnd
  | word (edge : WordEdge)
deriving DecidableEq

/-- A pattern as it is written. -/
inductive Written where
  | empty
  | switches (settings : List Setting)
  | literal (l : Literal)
  | dot
  | anchor (a : Anchor)
  | shorthand (s : Shorthand)
  | property (p : PropertyEscape)
  | bracket (negated : Bool) (content : SetItem)
  | repeated (body : Written) (least : Nat) (most : Option Nat) (lazy : Bool)
  | capture (body : Written)
  | group (settings : List Setting) (body : Written)
  | choice (branches : List Written)
  | sequence (items : List Written)

namespace SetItem

/-- Items as one item. -/
def ofList : List SetItem → SetItem
  | [item] => item
  | items => union items

mutual

/-- How deep brackets and operations are nested in an item. -/
def nesting : SetItem → Nat
  | literal _ => 0
  | range _ _ => 0
  | named _ _ => 0
  | shorthand _ => 0
  | property _ => 0
  | union [] => 0
  | union items => nestingOf items + 1
  | bracket _ content => content.nesting + 1
  | operation _ left right => max left.nesting right.nesting + 1

/-- The deepest nesting among items. -/
def nestingOf : List SetItem → Nat
  | [] => 0
  | item :: rest => max item.nesting (nestingOf rest)

end

end SetItem

namespace Written

/-- Items one after another. -/
def ofItems : List Written → Written
  | [] => empty
  | [item] => item
  | items => sequence items

/-- Branches to choose from. -/
def ofBranches : List Written → Written
  | [branch] => branch
  | branches => choice branches

/-- Whether something can be repeated: neither nothing nor switches can. -/
def isRepeatable : Written → Bool
  | empty => false
  | switches _ => false
  | _ => true

mutual

/-- How deep the parts of a pattern are nested. -/
def nesting : Written → Nat
  | empty => 0
  | switches _ => 0
  | literal _ => 0
  | dot => 0
  | anchor _ => 0
  | shorthand _ => 0
  | property _ => 0
  | bracket _ content => content.nesting + 1
  | repeated body _ _ _ => body.nesting + 1
  | capture body => body.nesting + 1
  | group _ body => body.nesting + 1
  | choice branches => nestingOf branches + 1
  | sequence items => nestingOf items + 1

/-- The deepest nesting among patterns. -/
def nestingOf : List Written → Nat
  | [] => 0
  | item :: rest => max item.nesting (nestingOf rest)

end

/-- The depth to which parts may be nested. -/
def nestingLimit : Nat := 250

end Written

end Pattern

end ModelSchema
