import ModelSchema.Pattern.Reader

/-!
# Portable patterns

A pattern in a schema is written so that it means the same everywhere.  `\cX` is a control
character there, and `\d`, `\w` and `\s` stand for fixed sets: the ASCII digits, the ASCII
characters of words, and a few blanks.  `Pattern.portable?` writes these escapes out.

There is no escape for the bell.  A text with a look-around or a back-reference is left as it is
from there on, and its shorthands are not written out.
-/

namespace ModelSchema

namespace Pattern

/-! ## What is to be written out -/

mutual

/-- The shorthands between brackets. -/
def SetItem.shorthands : SetItem → List Shorthand
  | .literal _ => []
  | .range _ _ => []
  | .named _ _ => []
  | .shorthand s => [s]
  | .property _ => []
  | .union items => SetItem.shorthandsOf items
  | .bracket _ content => content.shorthands
  | .operation _ left right => left.shorthands ++ right.shorthands

/-- The shorthands of items. -/
def SetItem.shorthandsOf : List SetItem → List Shorthand
  | [] => []
  | item :: rest => item.shorthands ++ SetItem.shorthandsOf rest

end

namespace Written

mutual

/-- The shorthands in a pattern; none if there is a bell outside brackets. -/
def shorthands? : Written → Option (List Shorthand)
  | empty => some []
  | switches _ => some []
  | literal l => if l.spelling = .bell then none else some []
  | dot => some []
  | anchor _ => some []
  | shorthand s => some [s]
  | property _ => some []
  | bracket _ content => some content.shorthands
  | repeated body _ _ _ => body.shorthands?
  | capture body => body.shorthands?
  | group _ body => body.shorthands?
  | choice branches => shorthandsOf? branches
  | sequence items => shorthandsOf? items

/-- The shorthands in patterns. -/
def shorthandsOf? : List Written → Option (List Shorthand)
  | [] => some []
  | item :: rest => do return (← item.shorthands?) ++ (← shorthandsOf? rest)

end

end Written

/-! ## Writing out -/

/-- The members of the set of a kind as they stand between brackets. -/
def Kind.members : Kind → String
  | digit => "0-9"
  | word => "A-Za-z0-9_"
  | space => " \t\n\r\x0b\x0c\u00a0\ufeff\u2003\u2029"

/-- A shorthand written out. -/
def Shorthand.writtenOut (s : Shorthand) : String :=
  (if s.negated then "[^" else "[") ++ s.kind.members ++ "]"

/-- A text, from a place on, with shorthands written out. -/
def writeOut (shorthands : List Shorthand) : Nat → List Char → List Char
  | place, c :: d :: rest =>
    match shorthands.find? (·.place = place) with
    | some s => s.writtenOut.toList ++ writeOut shorthands (place + 2) rest
    | none => c :: writeOut shorthands (place + 1) (d :: rest)
  | _, cs => cs

/-- The text with a control character in place of the escape for it. -/
def withControl? (cs : List Char) (place : Nat) : Option (List Char) :=
  match cs.drop place with
  | _ :: 'c' :: letter :: rest =>
    if letter.isAlpha then some (cs.take place ++ Char.ofNat (letter.toNat % 32) :: rest)
    else none
  | _ => none

/-- Writes out the escapes of a text, one control character after another and then the shorthands.
Each control character makes the text shorter. -/
def portableIn? : Nat → List Char → Option (List Char)
  | 0, _ => none
  | fuel + 1, cs =>
    match Written.read (String.ofList cs) with
    | .error .malformed => none
    | .error .notRegular => some cs
    | .error (.unknownEscape place) => (withControl? cs place).bind (portableIn? fuel)
    | .ok written => written.shorthands?.map fun shorthands => writeOut shorthands 0 cs

/-- The text of a schema pattern with its own escapes written out. -/
def portable? (text : String) : Option (List Char) := portableIn? (text.length + 1) text.toList

end Pattern

end ModelSchema
