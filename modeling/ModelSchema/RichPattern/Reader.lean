import ModelSchema.Pattern.Meaning
import ModelSchema.RichPattern.Basic

/-!
# Reading rich patterns

`RichPattern.read?` takes a text apart that may hold look-arounds and back-references.  The
notation differs from that of plain patterns in several ways.

* Switches hold from where they stand to the end of the text, unless they stand before a colon:
  then the switches before the group hold again after it.
* A character after a backslash is meant as it is, also where case is ignored.
* A brace that does not hold counts stands for itself.
* A `+` after a repetition keeps its preferred match for good.
* What stands between brackets is an ordinary bracket expression, once its escapes are replaced;
  there are no blanks in it, even if blanks are skipped elsewhere.
-/

namespace ModelSchema

namespace RichPattern

open Pattern (charOfHex? hexValue? isMeta)

/-- The switches in force. -/
structure Switches where
  ignoreCase : Bool
  multiLine : Bool
  dotNewline : Bool
  swapGreed : Bool
  verbose : Bool

/-- Where a reader stands: the rest of a text, the switches in force, the number of groups opened,
the names of groups, whether a group was referred to by number outside angles, and all groups
that were referred to.  No number written may reach `numberLimit`. -/
structure Cursor where
  rest : List Char
  switches : Switches
  groups : Nat
  names : List (List Char × Nat)
  numbered : Bool
  referenced : List Nat
  numberLimit : Nat

/-- A computation over a cursor that may find a fault. -/
abbrev Reading := StateT Cursor Option

namespace Reading

/-- The characters still to read. -/
def rest : Reading (List Char) := return (← get).rest

/-- Goes on with another rest of the text. -/
def setRest (cs : List Char) : Reading Unit := modify fun cursor => { cursor with rest := cs }

/-- Skips some characters. -/
def skip (count : Nat) : Reading Unit :=
  modify fun cursor => { cursor with rest := cursor.rest.drop count }

/-- The switches in force. -/
def switches : Reading Switches := return (← get).switches

/-- Puts switches in force. -/
def setSwitches (switches : Switches) : Reading Unit :=
  modify fun cursor => { cursor with switches }

/-- Whether the rest starts with a text, which is then skipped. -/
def accept (word : String) : Reading Bool := do
  let cs ← rest
  if word.toList.isPrefixOf cs then
    setRest (cs.drop word.length)
    return true
  else return false

end Reading

open Reading

/-! ## Blanks and remarks -/

/-- Where a text without meaning is being skipped. -/
inductive Filler where
  | blanks
  /-- After `#`, up to the end of the line. -/
  | comment
  /-- After `(?#`, up to the closing parenthesis. -/
  | remark
deriving DecidableEq

/-- The text after remarks, and after blanks and comments if the notation is verbose.  A remark
must be closed. -/
def skipFiller? (verbose : Bool) : Filler → List Char → Option (List Char)
  | .remark, [] => none
  | .remark, '\\' :: _ :: rest => skipFiller? verbose .remark rest
  | .remark, c :: rest => skipFiller? verbose (if c = ')' then .blanks else .remark) rest
  | .comment, c :: rest => skipFiller? verbose (if c = '\n' then .blanks else .comment) rest
  | .blanks, '(' :: '?' :: '#' :: rest => skipFiller? verbose .remark rest
  | .blanks, c :: rest =>
    if verbose ∧ c = '#' then skipFiller? verbose .comment rest
    else if verbose ∧ [' ', '\t', '\n', '\r'].contains c then skipFiller? verbose .blanks rest
    else some (c :: rest)
  | _, [] => some []

/-- Skips blanks and remarks. -/
def skipFiller : Reading Unit := do
  setRest (← skipFiller? (← switches).verbose .blanks (← rest))

/-! ## Numbers and names -/

/-- The number at the start of a text, and the rest. -/
def number? (cs : List Char) : Option (Nat × List Char) :=
  let digits := cs.takeWhile Char.isDigit
  let n := digits.foldl (fun n d => 10 * n + (d.toNat - 48)) 0
  if digits.isEmpty ∨ 1 <<< 64 ≤ n then none else some (n, cs.drop digits.length)

/-- Whether a character may stand in a name. -/
def isNameChar (c : Char) : Bool :=
  c = '_' || Unicode.alphabetic.contains c.toNat || Unicode.numeral.contains c.toNat

/-- Reads a name between two signs, of which the first one may be missing.  If it may be relative,
a name may also be a hyphen with digits. -/
def name (opening closing : String) (relative : Bool) : Reading (List Char) := do
  if !(← accept opening) then failure
  let cs ← rest
  let found :=
    match relative, cs with
    | true, '-' :: more => '-' :: more.takeWhile Char.isDigit
    | _, _ => cs.takeWhile isNameChar
  setRest (cs.drop found.length)
  if found.isEmpty ∨ !(← accept closing) then failure
  return found

/-- Notes that a group is referred to, which must have been opened. -/
def reference (index : Nat) : Reading Nat := do
  if (← get).groups < index then failure
  modify fun cursor => { cursor with referenced := index :: cursor.referenced }
  return index

/-- Reads the number of a group. -/
def numberedGroup : Reading Nat := do
  let (n, after) ← number? (← rest)
  if (← get).numberLimit ≤ n then failure
  setRest after
  modify fun cursor => { cursor with numbered := true }
  reference n

/-- Reads the name or the number of a group between two signs; a negative number counts back from
the group that would be opened next. -/
def namedGroup (opening closing : String) (relative : Bool) : Reading Nat := do
  let found ← name opening closing relative
  let cursor ← get
  match cursor.names.lookup found, found with
  | some index, _ => reference index
  | none, '-' :: digits =>
    match number? digits with
    | some (n, []) => if n ≤ cursor.groups + 1 then reference (cursor.groups + 1 - n) else failure
    | _ => failure
  | none, digits =>
    match number? digits with
    | some (n, []) => reference n
    | _ => failure

/-- Opens a group with its number. -/
def openGroup : Reading Nat := do
  modify fun cursor => { cursor with groups := cursor.groups + 1 }
  return (← get).groups

/-! ## Counts -/

/-- Reads counts after the opening brace up to the closing one: `n`, `n,`, `n,m`, `,m` or `,`. -/
def counts? (verbose : Bool) (cs : List Char) : Option (Nat × Option Nat × List Char) := do
  let spaced := skipFiller? verbose .blanks
  let cs ← spaced cs
  let (least, cs) ← if cs.head? = some ',' then some (0, cs) else number? cs
  match ← spaced cs with
  | '\x7d' :: after => return (least, some least, after)
  | ',' :: cs =>
    let cs ← spaced cs
    let (most, cs) :=
      match number? cs with
      | some (n, cs) => (if n = (1 <<< 64) - 1 then none else some n, cs)
      | none => (none, cs)
    match ← spaced cs with
    | '\x7d' :: after => return (least, most, after)
    | _ => none
  | _ => none

/-! ## Escapes -/

/-- What an escape stands for. -/
inductive Escape where
  /-- A character as it is. -/
  | exact (c : Char)
  /-- A character by its code. -/
  | code (c : Char)
  /-- A class, as a plain pattern writes it; it may heed case. -/
  | set (text : List Char) (folds : Bool)
  | pattern (p : RichPattern)

/-- Reads a code of a fixed number of digits, or of up to eight in braces. -/
def code (digits : Nat) : Reading Escape := do
  let cs ← rest
  let isHex (c : Char) : Bool := (hexValue? c).isSome
  let (written, after) ←
    if digits ≤ cs.length ∧ (cs.take digits).all isHex then pure (cs.take digits, cs.drop digits)
    else
      match cs with
      | '\x7b' :: more =>
        let written := more.takeWhile isHex
        match more.drop written.length with
        | '\x7d' :: after => if written.length ≤ 8 then pure (written, after) else failure
        | _ => failure
      | _ => failure
  setRest after
  return .code (← charOfHex? written)

/-- Reads the name of a property after the start of the escape. -/
def property (start : List Char) : Reading Escape := do
  match ← rest with
  | [] => failure
  | '\x7b' :: more =>
    let name := more.takeWhile (· ≠ '\x7d')
    if name.length = more.length then failure
    setRest (more.drop (name.length + 1))
    return .set (start ++ '\x7b' :: name ++ ['\x7d']) true
  | c :: more =>
    setRest more
    return .set (start ++ [c]) true

/-- Reads the edge of a word that `\b` stands for. -/
def edge : Reading WordEdge := do
  if (← rest).head? ≠ some '\x7b' then return .boundary
  else if ← accept "\x7bstart\x7d" then return .start
  else if ← accept "\x7bend\x7d" then return .finish
  else if ← accept "\x7bstart-half\x7d" then return .startHalf
  else if ← accept "\x7bend-half\x7d" then return .finishHalf
  else failure

/-- The characters that escape letters stand for. -/
def letterEscape? (c : Char) : Option Char :=
  match c with
  | 'a' => some '\x07'
  | 'b' => some '\x08'
  | 'f' => some '\x0c'
  | 'n' => some '\n'
  | 'r' => some '\r'
  | 't' => some '\t'
  | 'v' => some '\x0b'
  | 'e' => some '\x1b'
  | _ => none

/-- The escape for a condition on positions, which has no meaning between brackets. -/
def positionEscape? (c : Char) : Option (Reading RichPattern) :=
  match c with
  | 'A' => some (return .assertion .textStart)
  | 'z' => some (return .assertion .textEnd)
  | 'b' => some (return .assertion (.word (← edge) false))
  | 'B' => some (return .assertion (.word .interior false))
  | '<' => some (return .assertion (.word .start false))
  | '>' => some (return .assertion (.word .finish false))
  | 'K' => some (return .keepOut)
  | 'G' => some (return .searchStart)
  | 'k' => some do
    if (← rest).head? = some '\x27' then return .backreference (← namedGroup "'" "'" true)
    else return .backreference (← namedGroup "<" ">" true)
  | _ => none

/-- Reads an escape after the backslash. -/
def escape (inBrackets : Bool) : Reading Escape := do
  match ← rest with
  | [] => failure
  | c :: after =>
    if c.isDigit then return .pattern (.backreference (← numberedGroup))
    setRest after
    match positionEscape? c, inBrackets with
    | some position, false => return .pattern (← position)
    | position, _ =>
      if "dswDSW".toList.contains c then return .set ['\\', c] true
      else if c = 'h' then return .set "[0-9A-Fa-f]".toList false
      else if c = 'H' then return .set "[^0-9A-Fa-f]".toList false
      else if c = 'x' then code 2
      else if c = 'u' then code 4
      else if c = 'U' then code 8
      else if c = 'p' ∨ c = 'P' then property ['\\', c]
      else
        match letterEscape? c with
        | some d => return .exact d
        | none => if c.isAlpha ∧ position.isNone then failure else return .exact c

/-! ## Classes -/

/-- The set of a class as plain patterns write it. -/
def classSet? (text : List Char) (ignoreCase : Bool) : Option CharSet := do
  let written ← (Pattern.Written.read (String.ofList text)).toOption
  let pattern ← written.toPattern? ignoreCase
  guard (isClass written)
  pattern.set?
where
  /-- Whether a written pattern is a class. -/
  isClass : Pattern.Written → Bool
    | .bracket _ _ => true
    | .shorthand _ => true
    | .property _ => true
    | _ => false

/-- Reads what stands between brackets up to the last closing one, with escapes replaced. -/
def bracketText : Nat → Nat → Reading (List Char)
  | 0, _ => failure
  | fuel + 1, depth => do
    match ← rest with
    | [] => failure
    | c :: after =>
      setRest after
      match c with
      | '\\' =>
        let written ←
          match ← escape true with
          | .exact d => pure (if isMeta d then ['\\', d] else [d])
          | .code d => pure (if isMeta d then ['\\', d] else [d])
          | .set text _ => pure text
          | .pattern _ => failure
        return written ++ (← bracketText fuel depth)
      | '[' => return '[' :: (← bracketText fuel (depth + 1))
      | ']' => if depth = 0 then return [']'] else return ']' :: (← bracketText fuel (depth - 1))
      | _ => return c :: (← bracketText fuel depth)

/-- Reads a bracket expression after the opening bracket. -/
def bracket : Reading CharSet := do
  let caret := if ← accept "^" then ['^'] else []
  let first := if ← accept "]" then [']'] else []
  let text ← bracketText ((← rest).length + 1) 0
  classSet? ('[' :: caret ++ first ++ text) (← switches).ignoreCase

/-! ## Groups -/

/-- Reads a closing parenthesis. -/
def closing : Reading Unit := do
  skipFiller
  if !(← accept ")") then failure

/-- How many groups may stand one in another. -/
def depthLimit : Nat := 63

/-- The two parts of a decision; what is no choice has an empty second part. -/
def decision : RichPattern → RichPattern × RichPattern
  | .choice [yes, no] => (yes, no)
  | .choice (yes :: rest) => (yes, .choice rest)
  | yes => (yes, .empty)

/-- Whether a pattern is a back-reference. -/
def isBackreference : RichPattern → Bool
  | .backreference _ => true
  | _ => false

/-- A condition: a group that is referred to is asked for instead. -/
def asCondition : RichPattern → RichPattern
  | .backreference index => .entered index
  | p => p

/-- Items one after another. -/
def inSequence : List RichPattern → RichPattern
  | [] => .empty
  | [item] => item
  | items => .sequence items

/-- One switch turned on or off.  Unicode cannot be turned off. -/
def Switches.set? (s : Switches) (letter : Char) (on : Bool) : Option Switches :=
  match letter with
  | 'i' => some { s with ignoreCase := on }
  | 'm' => some { s with multiLine := on }
  | 's' => some { s with dotNewline := on }
  | 'U' => some { s with swapGreed := on }
  | 'x' => some { s with verbose := on }
  | 'u' => if on then some s else none
  | _ => none

/-- Reads the letters of switches up to a colon or a parenthesis.  Gives the sign at the end,
whether there is any letter, and whether the first sign is a hyphen with no letter after it. -/
def letters : Nat → Bool → Nat → Reading (Char × Nat × Bool)
  | 0, _, _ => failure
  | fuel + 1, on, count => do
    skipFiller
    match ← rest with
    | [] => failure
    | c :: after =>
      setRest after
      if c = ':' ∨ c = ')' then return (c, count, on)
      else if c = '-' then
        if on then letters fuel false (count + 1) else failure
      else
        setSwitches (← (← switches).set? c on)
        letters fuel on (count + 1)

/-- Whether something can be repeated. -/
def isRepeatable : RichPattern → Bool
  | .empty => false
  | .assertion _ => false
  | .look _ _ _ => false
  | _ => true

/-- Reads a repetition of an item, if one follows. -/
def repetition (item : RichPattern) : Reading RichPattern := do
  skipFiller
  let repeated (least : Nat) (most : Option Nat) (after : List Char) : Reading RichPattern := do
    if !isRepeatable item then failure
    setRest after
    skipFiller
    let lazy ← accept "?"
    let p := RichPattern.repeated item least most (lazy == (← switches).swapGreed)
    if ← accept "+" then return .atomic p else return p
  match ← rest with
  | '?' :: after => repeated 0 (some 1) after
  | '*' :: after => repeated 0 none after
  | '+' :: after => repeated 1 none after
  | '\x7b' :: after =>
    match counts? (← switches).verbose after with
    | some (least, most, after) => repeated least most after
    | none => return item
  | _ => return item

/-! ## Patterns -/

mutual

/-- Reads branches up to the end of a group or of the text.  Groups must not have names if they
are referred to by numbers, unless there is a choice. -/
def readBranches : Nat → Nat → Reading RichPattern
  | 0, _ => failure
  | fuel + 1, depth => do
    let first ← readItems fuel depth []
    skipFiller
    if (← rest).head? = some '|' then return .choice (first :: (← readFurther fuel depth))
    let cursor ← get
    if cursor.numbered ∧ !cursor.names.isEmpty then failure
    return first

/-- Reads branches that come after another one. -/
def readFurther : Nat → Nat → Reading (List RichPattern)
  | 0, _ => failure
  | fuel + 1, depth => do
    if ← accept "|" then
      let branch ← readItems fuel depth []
      skipFiller
      return branch :: (← readFurther fuel depth)
    else return []

/-- Reads items up to the end of a branch; `items` are those before, the last one first. -/
def readItems : Nat → Nat → List RichPattern → Reading RichPattern
  | 0, _, _ => failure
  | fuel + 1, depth, items => do
    let before := (← rest).length
    let item ← repetition (← readItem fuel depth)
    if (← rest).length = before then return inSequence items.reverse
    else if item.isEmpty then readItems fuel depth items
    else readItems fuel depth (item :: items)

/-- Reads one item; at the end of a branch there is none. -/
def readItem : Nat → Nat → Reading RichPattern
  | 0, _ => failure
  | fuel + 1, depth => do
    skipFiller
    let s ← switches
    match ← rest with
    | [] => return .empty
    | c :: after =>
      if "+*?|)".toList.contains c then return .empty
      setRest after
      match c with
      | '.' =>
        return .chars (.complement (if s.dotNewline then .none else .ofList [10]))
      | '^' => return .assertion (if s.multiLine then .lineStart false else .textStart)
      | '$' => return .assertion (if s.multiLine then .lineEnd false else .textEnd)
      | '(' =>
        if depthLimit ≤ depth then failure
        skipFiller
        readGroup fuel (depth + 1)
      | '[' => return .chars (← bracket)
      | '\\' =>
        match ← escape false with
        | .exact c => return .chars (.single c)
        | .code c => return .chars (.foldIf s.ignoreCase (.single c))
        | .set text folds => return .chars (← classSet? text (folds && s.ignoreCase))
        | .pattern p => return p
      | _ => return .chars (.foldIf s.ignoreCase (.single c))

/-- Reads a group after its opening parenthesis. -/
def readGroup : Nat → Nat → Reading RichPattern
  | 0, _ => failure
  | fuel + 1, depth => do
    let body (make : RichPattern → RichPattern) : Reading RichPattern := do
      let p ← readBranches fuel depth
      closing
      return make p
    if ← accept "?=" then body (.look true false)
    else if ← accept "?!" then body (.look true true)
    else if ← accept "?<=" then body (.look false false)
    else if ← accept "?<!" then body (.look false true)
    else if ← accept "?P=" then return .backreference (← namedGroup "" ")" false)
    else if ← accept "?>" then body .atomic
    else if ← accept "?(" then readConditional fuel depth
    else
      let cs ← rest
      match ["?<", "?'", "?P<"].find? fun sign => sign.toList.isPrefixOf cs with
      | some sign =>
        let index ← openGroup
        skip (sign.length - 1)
        let found ← if sign = "?'" then name "'" "'" false else name "<" ">" false
        modify fun cursor => { cursor with names := (found, index) :: cursor.names }
        body (.group index)
      | none =>
        if ← accept "?" then readSwitched fuel depth
        else
          let index ← openGroup
          body (.group index)

/-- Reads switches and what they stand before. -/
def readSwitched : Nat → Nat → Reading RichPattern
  | 0, _ => failure
  | fuel + 1, depth => do
    let outer ← switches
    let (sign, count, on) ← letters ((← rest).length + 1) true 0
    if !on ∧ count = 1 then failure
    if sign = ')' then
      if count = 0 then failure
      return .empty
    let p ← readBranches fuel depth
    if !(← accept ")") then failure
    setSwitches outer
    return p

/-- Reads a decision after its second parenthesis. -/
def readConditional : Nat → Nat → Reading RichPattern
  | 0, _ => failure
  | fuel + 1, depth => do
    let condition ←
      match ← rest with
      | [] => failure
      | c :: _ =>
        if c.isDigit then pure (.backreference (← numberedGroup))
        else if c = '\x27' then pure (.backreference (← namedGroup "'" "'" true))
        else if c = '<' then pure (.backreference (← namedGroup "<" ">" true))
        else readBranches fuel depth
    closing
    let before := (← rest).length
    let parts ← readBranches fuel depth
    let isBare := (← rest).length = before
    closing
    if isBare ∧ !isBackreference condition then failure
    let (yes, no) := decision parts
    if yes.isEmpty ∧ no.isEmpty then return asCondition condition
    else return .conditional (asCondition condition) yes no

end

/-- A rich pattern with the groups that it refers to. -/
structure Found where
  pattern : RichPattern
  groups : Nat
  referenced : List Nat

/-- Reads a whole text. -/
def read? (cs : List Char) : Option Found := do
  let size := (String.ofList cs).utf8ByteSize
  let start : Cursor := ⟨cs, ⟨false, false, false, false, false⟩, 0, [], false, [], size / 2⟩
  let (pattern, cursor) ← (readBranches (4 * cs.length + 4) 0).run start
  guard cursor.rest.isEmpty
  return ⟨pattern, cursor.groups, cursor.referenced⟩

end RichPattern

end ModelSchema
