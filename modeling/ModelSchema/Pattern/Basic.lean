import ModelSchema.Unicode.Category

/-!
# Patterns and where they match

A pattern is an expression over character sets and conditions on positions.  Its meaning is
`Pattern.reach`: the positions at which a match can end if it starts at one of some positions.
`Pattern.isMatch` asks whether a match exists anywhere in a text; which match would be preferred
does not matter for that, nor do the marks that say what to prefer.

Sets of positions are lists in increasing order.
-/

namespace ModelSchema

/-- An edge of a word, or a place that is none; the half edges look at one side only. -/
inductive WordEdge where
  | boundary
  | interior
  | start
  | finish
  | startHalf
  | finishHalf
deriving DecidableEq

/-- A condition on a position in a text. -/
inductive Assertion where
  | textStart
  | textEnd
  | lineStart (carriageReturn : Bool)
  | lineEnd (carriageReturn : Bool)
  | word (edge : WordEdge) (ascii : Bool)
deriving DecidableEq

/-- A pattern. -/
inductive Pattern where
  | empty
  | chars (set : CharSet)
  | assertion (condition : Assertion)
  | sequence (first second : Pattern)
  | choice (first second : Pattern)
  | repeated (body : Pattern) (least : Nat) (most : Option Nat) (greedy : Bool)
  | capture (body : Pattern)

/-! ## Conditions on positions -/

namespace Assertion

/-- The character before a position. -/
def charBefore (text : Array Char) : Nat → Option Char
  | 0 => none
  | p + 1 => text[p]?

/-- Whether a code point belongs to a word. -/
def isWordChar (ascii : Bool) (c : Char) : Bool :=
  (if ascii then CharSet.asciiWord else Unicode.word).contains c.toNat

/-- Whether an edge lies between two sides, each of which belongs to a word or not. -/
def isEdge (before after : Bool) : WordEdge → Bool
  | .boundary => before != after
  | .interior => before == after
  | .start => !before && after
  | .finish => before && !after
  | .startHalf => !before
  | .finishHalf => !after

/-- Whether a condition holds at a position. -/
def holdsAt (text : Array Char) (position : Nat) : Assertion → Bool
  | textStart => position == 0
  | textEnd => position == text.size
  | lineStart false => position == 0 || charBefore text position == some '\n'
  | lineStart true =>
    position == 0 || charBefore text position == some '\n' ||
      (charBefore text position == some '\r' && text[position]? != some '\n')
  | lineEnd false => position == text.size || text[position]? == some '\n'
  | lineEnd true =>
    position == text.size || text[position]? == some '\r' ||
      (text[position]? == some '\n' && charBefore text position != some '\r')
  | word edge ascii =>
    isEdge ((charBefore text position).any (isWordChar ascii))
      ((text[position]?).any (isWordChar ascii)) edge

end Assertion

namespace Pattern

/-! ## Positions that a match can reach -/

/-- The positions of two lists, in order and each once. -/
def merge (a b : List Nat) : List Nat := (a.merge b).eraseReps

/-- The positions after exactly `count` rounds. -/
def rounds (step : List Nat → List Nat) : Nat → List Nat → List Nat
  | 0, positions => positions
  | count + 1, positions =>
    if positions.isEmpty then [] else rounds step count (step positions)

/-- Marks the positions of up to `limit` further rounds; those of the last round are `latest`. -/
def mark (step : List Nat → List Nat) : Nat → List Nat → Array Bool → Array Bool
  | 0, _, marks => marks
  | limit + 1, latest, marks =>
    let new := (step latest).filter fun p => marks[p]? == some false
    if new.isEmpty then marks
    else mark step limit new (new.foldl (fun marks p => marks.setIfInBounds p true) marks)

/-- The positions up to `size` after any number of rounds up to a limit. -/
def upTo (step : List Nat → List Nat) (size limit : Nat) (start : List Nat) : List Nat :=
  let none := Array.replicate (size + 1) false
  let marks := mark step limit start (start.foldl (fun marks p => marks.setIfInBounds p true) none)
  (List.range (size + 1)).filter fun p => marks[p]? == some true

/-- The positions at which a match can end that starts at one of some positions.

A body that is repeated more often than the text is long has matched nothing in some round, so
further rounds lead nowhere else and the counts can be capped. -/
def reach (text : Array Char) : Pattern → List Nat → List Nat
  | empty, positions => positions
  | chars set, positions =>
    positions.filterMap fun p =>
      if (text[p]?).any fun c => set.contains c.toNat then some (p + 1) else none
  | assertion condition, positions => positions.filter fun p => condition.holdsAt text p
  | sequence first second, positions => reach text second (reach text first positions)
  | choice first second, positions =>
    merge (reach text first positions) (reach text second positions)
  | repeated body least most _, positions =>
    let cap := text.size + 1
    let limit := (most.map (· - least)).getD cap
    upTo (reach text body) text.size (min limit cap)
      (rounds (reach text body) (min least cap) positions)
  | capture body, positions => reach text body positions

/-- Whether a part of a text matches a pattern. -/
def isMatch (pattern : Pattern) (text : String) : Bool :=
  let cs := text.toList.toArray
  !(reach cs pattern (List.range (cs.size + 1))).isEmpty

/-! ## Putting patterns together -/

/-- Patterns one after another. -/
def inSequence : List Pattern → Pattern
  | [] => empty
  | [p] => p
  | empty :: rest => inSequence rest
  | p :: rest =>
    match inSequence rest with
    | empty => p
    | q => sequence p q

/-- The set of a pattern for one character. -/
def set? : Pattern → Option CharSet
  | chars set => some set
  | _ => none

/-- Patterns to choose from.  A choice among characters is a character of the union. -/
def inChoice (branches : List Pattern) : Pattern :=
  match branches.mapM set? with
  | some sets => chars (.unionOf sets)
  | none => nested branches
where
  /-- Choices one in another. -/
  nested : List Pattern → Pattern
    | [] => chars .none
    | [p] => p
    | p :: rest => choice p (nested rest)

/-- The pattern for one character. -/
def literal (c : Char) (ignoreCase : Bool) : Pattern :=
  chars (.foldIf ignoreCase (.single c))

end Pattern

end ModelSchema
