import ModelSchema.Yaml.Token
import ModelSchema.Yaml.Tag

/-!
# From YAML text to tokens

The scanner walks over the text and keeps the column, the number of bytes it has left behind, the
indentation of the open blocks, and for each level of brackets the place where a key may have
begun.  A key is recognised only when the
colon after it is reached; its tokens are then put in at the place that was kept.

Reading functions take a bound on their steps that exceeds the length of the text.
-/

namespace ModelSchema

namespace Yaml

/-! ## Characters -/

/-- A space or a tab. -/
def isBlank (c : Char) : Bool := c = ' ' || c = '\t'

/-- A line break. -/
def isBreak (c : Char) : Bool :=
  c = '\n' || c = '\r' || c.toNat = 0x85 || c.toNat = 0x2028 || c.toNat = 0x2029

/-- Whether the text goes on with a blank or a line break, or ends. -/
def startsBlank : List Char → Bool
  | [] => true
  | c :: _ => isBlank c || isBreak c

/-- Whether the text goes on with a line break, or ends. -/
def startsBreak : List Char → Bool
  | [] => true
  | c :: _ => isBreak c

/-- Whether the text goes on with a given character. -/
def startsWith (c : Char) (cs : List Char) : Bool := cs.head? == some c

/-- A character of names. -/
def isNameChar (c : Char) : Bool := c.isAlphanum || c = '_' || c = '-'

/-- Characters that a YAML text may hold. -/
def isAllowed (c : Char) : Bool :=
  let n := c.toNat
  n = 9 || n = 10 || n = 13 || (32 ≤ n && n ≤ 126) || n = 0x85 || (0xA0 ≤ n && n ≤ 0xFFFD) ||
    0x10000 ≤ n

/-- Brackets, by their codes. -/
def isOpenBrace (c : Char) : Bool := c.toNat = 0x7b

/-- A closing brace. -/
def isCloseBrace (c : Char) : Bool := c.toNat = 0x7d

/-- Characters that separate and enclose in flow collections. -/
def isFlowIndicator (c : Char) : Bool :=
  c = ',' || c = '[' || c = ']' || isOpenBrace c || isCloseBrace c

/-! ## State -/

/-- A place at which a key may have begun. -/
structure KeyPlace where
  required : Bool
  token : Nat
  line : Nat
  column : Nat
  byte : Nat

/-- Where the scanner stands. -/
structure Scanner where
  rest : List Char
  line : Nat
  column : Nat
  /-- The number of bytes before the rest. -/
  byte : Nat
  tokens : Array Token
  /-- The indentation of the innermost block; none outside all blocks. -/
  indent : Option Nat
  outer : List (Option Nat)
  /-- Whether a key may begin here. -/
  keyAllowed : Bool
  /-- For each open bracket, and for the block level last, the place of a possible key. -/
  keyPlaces : List (Option KeyPlace)
  ended : Bool

/-- A step of the scanner, which fails on malformed text. -/
abbrev Scan := StateT Scanner Option

namespace Scan

/-- The text still to read. -/
def rest : Scan (List Char) := return (← get).rest

/-- The number of bytes of a text. -/
def byteCount (cs : List Char) : Nat := cs.foldl (fun n c => n + c.utf8Size) 0

/-- Skips characters that are no line breaks. -/
def skip (count : Nat) : Scan Unit :=
  modify fun s => { s with
    rest := s.rest.drop count, column := s.column + count
    byte := s.byte + byteCount (s.rest.take count) }

/-- Skips a line break. -/
def skipBreak : Scan Unit :=
  modify fun s =>
    let width := match s.rest with
      | '\r' :: '\n' :: _ => 2
      | _ => 1
    { s with
      rest := s.rest.drop width, line := s.line + 1, column := 0
      byte := s.byte + byteCount (s.rest.take width) }

/-- Skips a line break and gives what it stands for: a line feed, or one of the two separators
that are kept. -/
def readBreak : Scan Char := do
  let c := (← rest).head?.getD '\n'
  skipBreak
  return if c.toNat = 0x2028 ∨ c.toNat = 0x2029 then c else '\n'

/-- Skips characters as long as they pass a test, and gives them. -/
def takeWhile (test : Char → Bool) : Scan (List Char) := do
  let taken := (← rest).takeWhile test
  skip taken.length
  return taken

/-- Appends a token. -/
def emit (token : Token) : Scan Unit := modify fun s => { s with tokens := s.tokens.push token }

/-- Puts a token in at a place. -/
def emitAt (place : Nat) (token : Token) : Scan Unit :=
  modify fun s => { s with
    tokens := (s.tokens.take place).push token ++ s.tokens.extract place s.tokens.size }

/-- Whether the scanner is inside brackets. -/
def inFlow : Scan Bool := return 1 < (← get).keyPlaces.length

/-- Says whether a key may begin next. -/
def allowKey (allowed : Bool) : Scan Unit := modify fun s => { s with keyAllowed := allowed }

/-! ## Keys -/

/-- Forgets the place of a possible key; a required one must not be forgotten. -/
def dropKey : Scan Unit := do
  match (← get).keyPlaces with
  | some place :: _ => if place.required then failure
  | _ => pure ()
  modify fun s => { s with keyPlaces := none :: s.keyPlaces.drop 1 }

/-- Keeps the current place as that of a possible key. -/
def markKey : Scan Unit := do
  let s ← get
  if s.keyAllowed then
    let required := !(← inFlow) && s.indent == some s.column
    dropKey
    let place : KeyPlace := ⟨required, s.tokens.size, s.line, s.column, s.byte⟩
    modify fun s => { s with keyPlaces := some place :: s.keyPlaces.drop 1 }

/-- How many bytes a key may have that is not announced. -/
def keyLimit : Nat := 1024

/-- Forgets possible keys that began on an earlier line, or too long ago. -/
def dropStaleKeys : Scan Unit := do
  let s ← get
  let stale (place : KeyPlace) : Bool := place.line < s.line || place.byte + keyLimit < s.byte
  if s.keyPlaces.any fun p => p.any fun place => stale place && place.required then failure
  modify fun s => { s with keyPlaces := s.keyPlaces.map fun p => p.filter (!stale ·) }

/-! ## Blocks -/

/-- Opens a block at a column to the right of the current one.  The opening token goes to a place
among the tokens, or to the end. -/
def openBlock (column : Nat) (place? : Option Nat) (token : Token) : Scan Unit := do
  let s ← get
  if !(← inFlow) ∧ s.indent.all (· < column) then
    modify fun s => { s with indent := some column, outer := s.indent :: s.outer }
    match place? with
    | some place => emitAt place token
    | none => emit token

/-- Closes blocks; `fuel` bounds their number. -/
def closeBlocksRest (keep : Nat → Bool) : Nat → Scan Unit
  | 0 => pure ()
  | fuel + 1 => do
    let s ← get
    match s.indent with
    | none => pure ()
    | some indent =>
      if !keep indent then
        emit .blockEnd
        modify fun s => { s with indent := s.outer.head?.join, outer := s.outer.drop 1 }
        closeBlocksRest keep fuel

/-- Closes the blocks whose indentation does not pass a test. -/
def closeBlocks (keep : Nat → Bool) : Scan Unit := do
  if !(← inFlow) then closeBlocksRest keep ((← get).outer.length + 1)

/-- Closes all blocks. -/
def closeAll : Scan Unit := closeBlocks fun _ => false

/-! ## Between tokens -/

/-- Skips blanks, comments and line breaks. -/
def toNextToken : Nat → Scan Unit
  | 0 => pure ()
  | fuel + 1 => do
    let s ← get
    if s.column = 0 ∧ s.rest.head?.any (·.toNat = 0xFEFF) then skip 1
    let tabs := (← inFlow) || !s.keyAllowed
    let _ ← takeWhile fun c => c = ' ' || (tabs && c = '\t')
    if startsWith '#' (← rest) then
      let _ ← takeWhile fun c => !isBreak c
    match ← rest with
    | c :: _ =>
      if isBreak c then
        skipBreak
        if !(← inFlow) then allowKey true
        toNextToken fuel
    | [] => pure ()

/-! ## Directives, anchors and tags -/

/-- Reads a number of at most nine digits. -/
def versionNumber : Scan Nat := do
  let digits ← takeWhile Char.isDigit
  if digits.isEmpty ∨ 9 < digits.length then failure
  return digits.foldl (fun n c => 10 * n + (c.toNat - 48)) 0

/-- Skips blanks. -/
def skipBlanks : Scan Unit := do
  let _ ← takeWhile isBlank

/-- The value of a hexadecimal digit. -/
def hexValue? (c : Char) : Option Nat :=
  if c.isDigit then some (c.toNat - 48)
  else if 'a' ≤ c ∧ c ≤ 'f' then some (c.toNat - 87)
  else if 'A' ≤ c ∧ c ≤ 'F' then some (c.toNat - 55)
  else none

/-- Characters of tags that stand for themselves. -/
def isTagChar (verbatim : Bool) (c : Char) : Bool :=
  isNameChar c || ";/?:@&=+$.!~*'()".toList.contains c || (verbatim && ",[]".toList.contains c)

/-- Reads an escaped byte. -/
def escapedByte? : List Char → Option (Nat × List Char)
  | '%' :: a :: b :: rest => do
    let high ← hexValue? a
    let low ← hexValue? b
    return (16 * high + low, rest)
  | _ => none

/-- How many bytes a character has by its first byte; none if no character begins with it. -/
def encodedWidth? (first : Nat) : Option Nat :=
  if first < 0x80 then some 1
  else if first < 0xC0 then none
  else if first < 0xE0 then some 2
  else if first < 0xF0 then some 3
  else if first < 0xF8 then some 4
  else none

/-- Reads escaped bytes that continue a character. -/
def continuation? : Nat → List Char → Option (List UInt8 × List Char)
  | 0, cs => some ([], cs)
  | count + 1, cs => do
    let (byte, rest) ← escapedByte? cs
    if byte / 0x40 ≠ 2 then failure
    let (bytes, rest) ← continuation? count rest
    return (UInt8.ofNat byte :: bytes, rest)

/-- The bytes of a written tag.  Escapes come in groups that have the shape of a character in
UTF-8, though it need not be one. -/
def tagBytes? : Nat → List Char → Option (List UInt8)
  | 0, _ => none
  | _ + 1, [] => some []
  | fuel + 1, c :: rest =>
    if c = '%' then do
      let (first, rest) ← escapedByte? (c :: rest)
      let width ← encodedWidth? first
      let (others, rest) ← continuation? (width - 1) rest
      let bytes ← tagBytes? fuel rest
      return UInt8.ofNat first :: others ++ bytes
    else do
      let bytes ← tagBytes? fuel rest
      return c.toString.toUTF8.toList ++ bytes

/-- Reads the characters of a tag, escapes included. -/
def tagText (verbatim : Bool) : Scan (List UInt8) := do
  let cs ← takeWhile fun c => isTagChar verbatim c || c = '%'
  match tagBytes? (cs.length + 1) cs with
  | some bytes => return bytes
  | none => failure

/-- A tag ends before its first zero byte. -/
def untilZero (bytes : List UInt8) : List UInt8 := bytes.takeWhile (· ≠ 0)

/-- Reads the handle of a tag: an exclamation mark, and possibly a name with another one. -/
def tagHandle : Scan String := do
  if !startsWith '!' (← rest) then failure
  skip 1
  let name ← takeWhile isNameChar
  if startsWith '!' (← rest) then
    skip 1
    return String.ofList ('!' :: name ++ ['!'])
  return String.ofList ('!' :: name)

/-- Whether a handle is complete: more than one character, and an exclamation mark at the end. -/
def isHandle (handle : String) : Bool :=
  1 < handle.length && handle.toList.getLast? == some '!'

/-- Reads a tag. -/
def tag : Scan Token := do
  let cs ← rest
  let token ←
    if startsWith '<' (cs.drop 1) then
      skip 2
      let text ← tagText true
      if text.isEmpty ∨ !startsWith '>' (← rest) then failure
      skip 1
      pure (Token.tag "" (untilZero text))
    else
      let handle ← tagHandle
      if isHandle handle then
        let text ← tagText false
        if text.isEmpty then failure
        pure (Token.tag handle (untilZero text))
      else
        let text := untilZero ((handle.drop 1).toString.toUTF8.toList ++ (← tagText false))
        pure (if text.isEmpty then Token.tag "" [Tag.mark] else Token.tag "!" text)
  let after ← rest
  if !startsBlank after ∧ !((← inFlow) && startsWith ',' after) then failure
  return token

/-- Reads the name of an anchor or an alias. -/
def anchorName : Scan String := do
  skip 1
  let name ← takeWhile isNameChar
  let after ← rest
  let ends := startsBlank after ||
    after.head?.any fun c => "?:,]%@\x60".toList.contains c || isCloseBrace c
  if name.isEmpty ∨ !ends then failure
  return String.ofList name

/-- Reads a directive. -/
def directive : Scan Token := do
  skip 1
  let name ← takeWhile isNameChar
  if name.isEmpty ∨ !startsBlank (← rest) then failure
  skipBlanks
  let token ←
    if String.ofList name = "YAML" then
      let major ← versionNumber
      if !startsWith '.' (← rest) then failure
      skip 1
      let minor ← versionNumber
      pure (Token.versionDirective major minor)
    else if String.ofList name = "TAG" then
      let handle ← tagHandle
      if handle ≠ "!" ∧ !isHandle handle then failure
      if !(← rest).head?.any isBlank then failure
      skipBlanks
      let start ← tagText true
      if start.isEmpty ∨ !startsBlank (← rest) then failure
      pure (Token.tagDirective handle (untilZero start))
    else failure
  skipBlanks
  if startsWith '#' (← rest) then
    let _ ← takeWhile fun c => !isBreak c
  if !startsBreak (← rest) then failure
  if !(← rest).isEmpty then skipBreak
  return token

/-! ## Block scalars -/

/-- Skips indentation and empty lines, and gives the breaks of those lines and the widest
indentation.  Without a known indentation any number of spaces is skipped. -/
def scalarBreaks (indent : Option Nat) : Nat → List Char → Nat → Scan (List Char × Nat)
  | 0, breaks, widest => return (breaks, widest)
  | fuel + 1, breaks, widest => do
    let column := (← get).column
    let spaces := ((← rest).takeWhile (· = ' ')).length
    let room := match indent with
      | some n => n - column
      | none => spaces
    skip (min spaces room)
    let column := (← get).column
    let widest := max widest column
    if indent.all (column < ·) ∧ startsWith '\t' (← rest) then failure
    match ← rest with
    | c :: _ =>
      if isBreak c then
        let b ← readBreak
        scalarBreaks indent fuel (breaks ++ [b]) widest
      else return (breaks, widest)
    | [] => return (breaks, widest)

/-- What a block scalar does with the line breaks at its end. -/
inductive Chomping where
  | strip | clip | keep
deriving DecidableEq

/-- Reads the indicators after the sign of a block scalar: chomping and indentation in any
order. -/
def blockHeader : Scan (Chomping × Option Nat) := do
  let sign : Scan (Option Chomping) := do
    match ← rest with
    | '+' :: _ =>
      skip 1
      return some .keep
    | '-' :: _ =>
      skip 1
      return some .strip
    | _ => return none
  let digit : Scan (Option Nat) := do
    match ← rest with
    | c :: _ =>
      if c.isDigit then
        if c = '0' then failure
        skip 1
        return some (c.toNat - 48)
      else return none
    | [] => return none
  match ← sign with
  | some chomping => return (chomping, ← digit)
  | none =>
    match ← digit with
    | some n => return ((← sign).getD .clip, some n)
    | none => return (.clip, none)

/-- Reads the lines of a block scalar.  `text` is what was read, `breakBefore` the break after
it, `breaks` the empty lines that follow, and `blankBefore` whether the last line began with a
blank. -/
def blockLines (literal : Bool) (indent : Nat) : Nat → List Char → List Char → List Char → Bool →
    Scan (List Char × List Char × List Char)
  | 0, text, breakBefore, breaks, _ => return (text, breakBefore, breaks)
  | fuel + 1, text, breakBefore, breaks, blankBefore => do
    let s ← get
    if s.column = indent ∧ !s.rest.isEmpty then
      let blankNow := s.rest.head?.any isBlank
      let joined :=
        if !literal ∧ breakBefore = ['\n'] ∧ !blankBefore ∧ !blankNow then
          (if breaks.isEmpty then [' '] else breaks)
        else breakBefore ++ breaks
      let line ← takeWhile fun c => !isBreak c
      let after ← if (← rest).isEmpty then pure [] else do pure [← readBreak]
      let (breaks, _) ← scalarBreaks (some indent) ((← rest).length + 1) [] 0
      blockLines literal indent fuel (text ++ joined ++ line) after breaks blankNow
    else return (text, breakBefore, breaks)

/-- Reads a block scalar. -/
def blockScalar (literal : Bool) : Scan Token := do
  skip 1
  let (chomping, increment) ← blockHeader
  skipBlanks
  if startsWith '#' (← rest) then
    let _ ← takeWhile fun c => !isBreak c
  if !startsBreak (← rest) then failure
  if !(← rest).isEmpty then skipBreak
  let parent := (← get).indent
  let known := increment.map fun n => parent.getD 0 + n
  let (breaks, widest) ← scalarBreaks known ((← rest).length + 1) [] 0
  let least := match parent with
    | some n => n + 1
    | none => 0
  let indent := known.getD (max (max widest least) 1)
  let (text, last, breaks) ← blockLines literal indent ((← rest).length + 1) [] [] breaks false
  let text := if chomping = .strip then text else text ++ last
  let text := if chomping = .keep then text ++ breaks else text
  return .scalar (if literal then .literal else .folded) (String.ofList text)

/-! ## Flow scalars -/

/-- The blanks between two words of a scalar: on one line, or with breaks. -/
structure Gap where
  blanks : List Char
  /-- The first line break; none as long as there was none. -/
  first : Option (List Char)
  breaks : List Char

/-- What a gap stands for in the text: blanks are kept, a single break is a space, more breaks
lose the first. -/
def Gap.text (gap : Gap) : List Char :=
  match gap.first with
  | none => gap.blanks
  | some ['\n'] => if gap.breaks.isEmpty then [' '] else gap.breaks
  | some first => first ++ gap.breaks

/-- Reads blanks and breaks.  `tabTest` refuses tabs at a column after a break. -/
def readGap (tabTest : Nat → Bool) : Nat → Gap → Scan Gap
  | 0, gap => return gap
  | fuel + 1, gap => do
    match ← rest with
    | c :: _ =>
      if isBlank c then
        if gap.first.isSome ∧ c = '\t' ∧ tabTest (← get).column then failure
        skip 1
        readGap tabTest fuel (if gap.first.isSome then gap
          else { gap with blanks := gap.blanks ++ [c] })
      else if isBreak c then
        let b ← readBreak
        readGap tabTest fuel (if gap.first.isSome then { gap with breaks := gap.breaks ++ [b] }
          else { gap with blanks := [], first := some [b] })
      else return gap
    | [] => return gap

/-- The character for an escape letter that takes no digits. -/
def simpleEscape? (c : Char) : Option Char :=
  match c with
  | '0' => some '\x00'
  | 'a' => some '\x07'
  | 'b' => some '\x08'
  | 't' => some '\t'
  | '\t' => some '\t'
  | 'n' => some '\n'
  | 'v' => some '\x0b'
  | 'f' => some '\x0c'
  | 'r' => some '\r'
  | 'e' => some '\x1b'
  | ' ' => some ' '
  | '"' => some '"'
  | '/' => some '/'
  | '\\' => some '\\'
  | 'N' => some (Char.ofNat 0x85)
  | '_' => some (Char.ofNat 0xA0)
  | 'L' => some (Char.ofNat 0x2028)
  | 'P' => some (Char.ofNat 0x2029)
  | _ => none

/-- How many digits an escape letter takes. -/
def escapeDigits? (c : Char) : Option Nat :=
  match c with
  | 'x' => some 2
  | 'u' => some 4
  | 'U' => some 8
  | _ => none

/-- Reads an escape after its backslash. -/
def escapedChar : Scan Char := do
  match ← rest with
  | [] => failure
  | c :: cs =>
    match simpleEscape? c, escapeDigits? c with
    | some d, _ =>
      skip 1
      return d
    | none, some digits =>
      let code := cs.take digits
      if code.length ≠ digits then failure
      match code.foldlM (fun n d => (hexValue? d).map fun v => 16 * n + v) 0 with
      | some n =>
        if (0xD800 ≤ n ∧ n ≤ 0xDFFF) ∨ 0x10FFFF < n then failure
        skip (digits + 1)
        return Char.ofNat n
      | none => failure
    | none, none => failure

/-- Reads characters of a quoted scalar up to a blank, a break or the closing quote.  Also says
whether an escaped line break ended them. -/
def quotedWord (single : Bool) : Nat → List Char → Scan (List Char × Bool)
  | 0, text => return (text, false)
  | fuel + 1, text => do
    let cs ← rest
    if startsBlank cs then return (text, false)
    match cs with
    | '\'' :: more =>
      if single then
        if startsWith '\'' more then
          skip 2
          quotedWord single fuel (text ++ ['\''])
        else return (text, false)
      else
        skip 1
        quotedWord single fuel (text ++ ['\''])
    | '"' :: _ =>
      if single then
        skip 1
        quotedWord single fuel (text ++ ['"'])
      else return (text, false)
    | '\\' :: more =>
      if single then
        skip 1
        quotedWord single fuel (text ++ ['\\'])
      else if !more.isEmpty ∧ startsBreak more then
        skip 1
        skipBreak
        return (text, true)
      else
        skip 1
        let c ← escapedChar
        quotedWord single fuel (text ++ [c])
    | c :: _ =>
      skip 1
      quotedWord single fuel (text ++ [c])
    | [] => return (text, false)

/-- Whether a line begins with a mark between documents. -/
def atDocumentMark : Scan Bool := do
  let s ← get
  let mark := s.rest.take 3
  return s.column == 0 && (mark == ['-', '-', '-'] || mark == ['.', '.', '.']) &&
    startsBlank (s.rest.drop 3)

/-- Reads a quoted scalar after its opening quote. -/
def quotedRest (single : Bool) : Nat → List Char → Scan (List Char)
  | 0, _ => failure
  | fuel + 1, text => do
    if ← atDocumentMark then failure
    if (← rest).isEmpty then failure
    let (text, escapedBreak) ← quotedWord single ((← rest).length + 1) text
    let quote := if single then '\'' else '"'
    if startsWith quote (← rest) then
      skip 1
      return text
    let start : Gap := ⟨[], if escapedBreak then some [] else none, []⟩
    let gap ← readGap (fun _ => false) ((← rest).length + 1) start
    quotedRest single fuel (text ++ gap.text)

/-- Reads a quoted scalar. -/
def quotedScalar (single : Bool) : Scan Token := do
  skip 1
  let text ← quotedRest single ((← rest).length + 1) []
  return .scalar (if single then .singleQuoted else .doubleQuoted) (String.ofList text)

/-! ## Plain scalars -/

/-- Reads a word of a plain scalar. -/
def plainWord (flow : Bool) : Nat → List Char → Scan (List Char)
  | 0, word => return word
  | fuel + 1, word => do
    let cs ← rest
    if startsBlank cs then return word
    match cs with
    | [] => return word
    | c :: more =>
      let afterColon := more.head?.any fun d => isFlowIndicator d || d = '?'
      if flow ∧ c = ':' ∧ afterColon then failure
      if (c = ':' ∧ startsBlank more) ∨ (flow ∧ isFlowIndicator c) then return word
      skip 1
      plainWord flow fuel (word ++ [c])

/-- Reads a plain scalar; `gap` is what stands before the next word. -/
def plainRest (flow : Bool) (indent : Nat) : Nat → List Char → Gap → Scan (List Char × Gap)
  | 0, text, gap => return (text, gap)
  | fuel + 1, text, gap => do
    if (← atDocumentMark) || startsWith '#' (← rest) then return (text, gap)
    let word ← plainWord flow ((← rest).length + 1) []
    let (text, gap) := if word.isEmpty then (text, gap)
      else (text ++ gap.text ++ word, (⟨[], none, []⟩ : Gap))
    if (← rest).isEmpty ∨ !startsBlank (← rest) then return (text, gap)
    let gap ← readGap (· < indent) ((← rest).length + 1) gap
    if !flow ∧ (← get).column < indent then return (text, gap)
    plainRest flow indent fuel text gap

/-- Reads a plain scalar.  After a line break a key may begin. -/
def plainScalar : Scan Token := do
  let flow ← inFlow
  let indent := match (← get).indent with
    | some n => n + 1
    | none => 0
  let (text, gap) ← plainRest flow indent ((← rest).length + 1) [] ⟨[], none, []⟩
  if gap.first.isSome then allowKey true
  return .scalar .plain (String.ofList text)

/-! ## Tokens -/

/-- The end of the text: all blocks are closed. -/
def endStream : Scan Unit := do
  modify fun s => if s.column = 0 then s else { s with column := 0, line := s.line + 1 }
  closeAll
  dropKey
  allowKey false
  emit .streamEnd
  modify fun s => { s with ended := true }

/-- A token at the left margin that ends all blocks. -/
def atMargin (read : Scan Token) : Scan Unit := do
  closeAll
  dropKey
  allowKey false
  emit (← read)

/-- An opening bracket. -/
def openFlow (token : Token) : Scan Unit := do
  markKey
  modify fun s => { s with keyPlaces := none :: s.keyPlaces }
  allowKey true
  skip 1
  emit token

/-- A closing bracket. -/
def closeFlow (token : Token) : Scan Unit := do
  dropKey
  modify fun s => if 1 < s.keyPlaces.length then { s with keyPlaces := s.keyPlaces.drop 1 } else s
  allowKey false
  skip 1
  emit token

/-- A comma between brackets. -/
def flowEntry : Scan Unit := do
  dropKey
  allowKey true
  skip 1
  emit .flowEntry

/-- A hyphen before an item of a block sequence. -/
def blockEntry : Scan Unit := do
  if !(← inFlow) then
    if !(← get).keyAllowed then failure
    openBlock (← get).column none .blockSequenceStart
  dropKey
  allowKey true
  skip 1
  emit .blockEntry

/-- A question mark before a key. -/
def explicitKey : Scan Unit := do
  let flow ← inFlow
  if !flow then
    if !(← get).keyAllowed then failure
    openBlock (← get).column none .blockMappingStart
  dropKey
  allowKey !flow
  skip 1
  emit .key

/-- A colon before a value.  The key before it is announced now. -/
def mappingValue : Scan Unit := do
  match (← get).keyPlaces with
  | some place :: _ =>
    emitAt place.token .key
    openBlock place.column (some place.token) .blockMappingStart
    modify fun s => { s with keyPlaces := none :: s.keyPlaces.drop 1 }
    allowKey false
  | _ =>
    let flow ← inFlow
    if !flow then
      if !(← get).keyAllowed then failure
      openBlock (← get).column none .blockMappingStart
    allowKey !flow
  skip 1
  emit .value

/-- A token at which a key may begin, but none right after it. -/
def keyToken (read : Scan Token) : Scan Unit := do
  markKey
  allowKey false
  emit (← read)

/-- Characters that begin no plain scalar. -/
def isIndicator (c : Char) : Bool :=
  "-?:,[]#&*!|>'\"%@\x60".toList.contains c || isOpenBrace c || isCloseBrace c

/-- Reads the next token. -/
def nextToken : Scan Unit := do
  toNextToken ((← rest).length + 1)
  dropStaleKeys
  let column := (← get).column
  closeBlocks (· ≤ column)
  let flow ← inFlow
  match ← rest with
  | [] => endStream
  | c :: more =>
    let blankNext := startsBlank more
    if column = 0 ∧ c = '%' then atMargin directive
    else if ← atDocumentMark then
      atMargin do
        skip 3
        return if c = '-' then .documentStart else .documentEnd
    else if c = '[' then openFlow .flowSequenceStart
    else if isOpenBrace c then openFlow .flowMappingStart
    else if c = ']' then closeFlow .flowSequenceEnd
    else if isCloseBrace c then closeFlow .flowMappingEnd
    else if c = ',' then flowEntry
    else if c = '-' ∧ blankNext then blockEntry
    else if c = '?' ∧ (flow ∨ blankNext) then explicitKey
    else if c = ':' ∧ (flow ∨ blankNext) then mappingValue
    else if c = '*' then keyToken do return .alias (← anchorName)
    else if c = '&' then keyToken do return .anchor (← anchorName)
    else if c = '!' then keyToken tag
    else if (c = '|' ∨ c = '>') ∧ !flow then
      dropKey
      allowKey true
      emit (← blockScalar (c = '|'))
    else if c = '\'' then keyToken (quotedScalar true)
    else if c = '"' then keyToken (quotedScalar false)
    else if !(isIndicator c || isBlank c || isBreak c) ∨ (c = '-' ∧ !more.head?.any isBlank) ∨
        (!flow ∧ (c = '?' ∨ c = ':') ∧ !blankNext) then
      keyToken plainScalar
    else failure

/-- Reads tokens up to the end of the text. -/
def allTokens : Nat → Scan Unit
  | 0 => pure ()
  | fuel + 1 => do
    nextToken
    if !(← get).ended then allTokens fuel

end Scan

/-- The tokens of a text; none if the text is malformed. -/
def tokens? (text : String) : Option (List Token) := do
  let cs := text.toList
  if !cs.all isAllowed then none
  let start : Scanner := ⟨cs, 0, 0, 0, #[], none, [], true, [none], false⟩
  let (_, s) ← (Scan.allTokens (cs.length + 1)).run start
  if s.ended then some s.tokens.toList else none

end Yaml

end ModelSchema
