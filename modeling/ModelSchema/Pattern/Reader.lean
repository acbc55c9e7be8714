import ModelSchema.Pattern.Written

/-!
# Reading patterns

`Written.read` takes a text apart.  A text that is no pattern has a fault: it may use an escape
that is not known, it may ask for more than a pattern can say, such as a look-around or a
back-reference, or it may be malformed in another way.  Of several faults the first one counts,
except that too deep nesting is noticed last.

Where the notation is verbose, blanks and comments may stand between all parts, also inside
escapes and counts.
-/

namespace ModelSchema

namespace Pattern

/-- Why a text is no pattern. -/
inductive Fault where
  | malformed
  /-- An escape that is not known, with the place of its backslash. -/
  | unknownEscape (place : Nat)
  /-- A look-around or a back-reference. -/
  | notRegular
deriving DecidableEq

/-- Where a reader stands: the rest of a text of a certain length, whether blanks are skipped, and
the names of groups so far. -/
structure Cursor where
  rest : List Char
  length : Nat
  verbose : Bool
  names : List (List Char)

/-- A computation over a cursor that may find a fault. -/
abbrev Reading := StateT Cursor (Except Fault)

namespace Reading

/-- Ends with a fault in the notation. -/
def malformed {α : Type} : Reading α := throw .malformed

/-- The characters still to read. -/
def rest : Reading (List Char) := return (← get).rest

/-- Goes on with another rest of the text. -/
def setRest (cs : List Char) : Reading Unit := modify fun cursor => { cursor with rest := cs }

/-- Skips one character. -/
def skip : Reading Unit := modify fun cursor => { cursor with rest := cursor.rest.drop 1 }

/-- The number of characters read. -/
def place : Reading Nat := return (← get).length - (← get).rest.length

/-- Whether blanks are skipped. -/
def verbose : Reading Bool := return (← get).verbose

/-- Says whether blanks are to be skipped. -/
def setVerbose (verbose : Bool) : Reading Unit := modify fun cursor => { cursor with verbose }

/-- Whether the rest starts with a text, which is then skipped. -/
def accept (word : String) : Reading Bool := do
  let cs ← rest
  if word.toList.isPrefixOf cs then
    setRest (cs.drop word.length)
    return true
  else return false

end Reading

open Reading

/-! ## Blanks -/

/-- A text without the blanks and comments at its start. -/
def skipVerbose : Bool → List Char → List Char
  | _, [] => []
  | true, c :: rest => skipVerbose (c ≠ '\n') rest
  | false, c :: rest =>
    if Unicode.whiteSpace.contains c.toNat then skipVerbose false rest
    else if c = '#' then skipVerbose true rest
    else c :: rest

/-- A text without the blanks at its start, if blanks are skipped. -/
def skipBlanksIf (verbose : Bool) (cs : List Char) : List Char :=
  if verbose then skipVerbose false cs else cs

/-- Skips blanks. -/
def skipBlanks : Reading Unit := do setRest (skipBlanksIf (← verbose) (← rest))

/-- Skips one character and the blanks after it, and gives the rest, which may not be empty. -/
def skipToNext : Reading (List Char) := do
  skip
  skipBlanks
  match ← rest with
  | [] => malformed
  | cs => return cs

/-- Up to `limit` characters of a kind with blanks after each, and the rest. -/
def takeSpaced (verbose : Bool) (isOne : Char → Bool) :
    Nat → List Char → List Char × List Char
  | 0, cs => ([], cs)
  | _ + 1, [] => ([], [])
  | limit + 1, c :: rest =>
    if isOne c then
      let (more, rest) := takeSpaced verbose isOne limit (skipBlanksIf verbose rest)
      (c :: more, rest)
    else ([], c :: rest)

/-- Reads characters up to a closing brace. -/
def braced : Reading (List Char) := do
  let cs ← skipToNext
  let (inner, cs) := takeSpaced (← verbose) (· ≠ '\x7d') cs.length cs
  match cs with
  | [] => malformed
  | _ :: after =>
    setRest after
    return inner

/-! ## Escapes -/

/-- The value of a hexadecimal digit. -/
def hexValue? (c : Char) : Option Nat :=
  if c.isDigit then some (c.toNat - 48)
  else if 'a' ≤ c ∧ c ≤ 'f' then some (c.toNat - 87)
  else if 'A' ≤ c ∧ c ≤ 'F' then some (c.toNat - 55)
  else none

/-- The character with a code, if there is one. -/
def charOfCode? (n : Nat) : Option Char :=
  if n < 0xD800 ∨ (0xE000 ≤ n ∧ n < 0x110000) then some (Char.ofNat n) else none

/-- The character whose code is written in hexadecimal digits. -/
def charOfHex? (cs : List Char) : Option Char :=
  if cs.isEmpty then none
  else (cs.foldlM (fun n c => (hexValue? c).map fun d => 16 * n + d) 0).bind charOfCode?

/-- Reads a code of a fixed number of digits or in braces, of which the letter is still to come. -/
def codeEscape (digits : Nat) : Reading Literal := do
  let cs ← skipToNext
  let (code, spelling) ←
    if cs.head? = some '\x7b' then pure (← braced, Spelling.plain)
    else
      let (code, after) := takeSpaced (← verbose) (fun c => (hexValue? c).isSome) digits cs
      if code.length ≠ digits then malformed
      setRest after
      pure (code, if digits = 2 then .byte else .plain)
  match charOfHex? code with
  | some c => return ⟨c, spelling⟩
  | none => malformed

/-- Takes the text of a property apart: a sign may stand between its name and a value, of which
`!=` is looked for first and `=` last. -/
def propertyName (cs : List Char) : PropertyName :=
  match splitAt? "!=" [] cs, splitAt? ":" [] cs, splitAt? "=" [] cs with
  | some (property, value), _, _ => .value property value true
  | none, some (property, value), _ => .value property value false
  | none, none, some (property, value) => .value property value false
  | none, none, none => .name cs
where
  /-- What stands before and after the first occurrence of a sign. -/
  splitAt? (sign : String) (before : List Char) : List Char → Option (List Char × List Char)
    | [] => none
    | c :: rest =>
      if sign.toList.isPrefixOf (c :: rest) then
        some (before.reverse, (c :: rest).drop sign.length)
      else splitAt? sign (c :: before) rest

/-- Reads a property, of which the escape letter is still to come. -/
def propertyEscape (negated : Bool) : Reading PropertyEscape := do
  match ← skipToNext with
  | [] => malformed
  | c :: _ =>
    if c = '\x7b' then return ⟨propertyName (← braced), negated⟩
    else if c = '\\' then malformed
    else
      skip
      return ⟨.name [c], negated⟩

/-- Characters with a meaning of their own in patterns. -/
def isMeta (c : Char) : Bool :=
  "\\.+*?()|[]^$#&-~".toList.contains c || c = '\x7b' || c = '\x7d'

/-- Characters that an escape leaves as they are: ASCII but for letters, digits and angles. -/
def isEscapable (c : Char) : Bool :=
  isMeta c || (c.toNat < 128 && !c.isAlphanum && c ≠ '<' && c ≠ '>')

/-- The edges that `\b` may name in braces. -/
def edgeName? (name : String) : Option WordEdge :=
  match name with
  | "start" => some .start
  | "end" => some .finish
  | "start-half" => some .startHalf
  | "end-half" => some .finishHalf
  | _ => none

/-- Reads what may follow `\b`: the name of an edge in braces.  What does not start like a name is
left for counts. -/
def edgeEscape : Reading WordEdge := do
  let isLetter (c : Char) : Bool := c.isAlpha || c = '-'
  let before ← rest
  if before.head? ≠ some '\x7b' then return .boundary
  let cs ← skipToNext
  if !cs.head?.any isLetter then
    setRest before
    return .boundary
  let (name, after) := takeSpaced (← verbose) isLetter cs.length cs
  match edgeName? (String.ofList name), after with
  | some edge, '\x7d' :: after =>
    setRest after
    return edge
  | _, _ => malformed

/-- The kind of characters that a letter stands for. -/
def kindOfLetter? : Char → Option Kind
  | 'd' => some .digit
  | 's' => some .space
  | 'w' => some .word
  | _ => none

/-- Reads an escape, of which the backslash is still to come. -/
def escape : Reading Written := do
  let start ← place
  skip
  match ← rest with
  | [] => malformed
  | c :: after =>
    if c.isDigit then throw .notRegular
    else if c = 'x' then return .literal (← codeEscape 2)
    else if c = 'u' then return .literal (← codeEscape 4)
    else if c = 'U' then return .literal (← codeEscape 8)
    else if c = 'p' ∨ c = 'P' then return .property (← propertyEscape (c = 'P'))
    else
      setRest after
      match kindOfLetter? c.toLower with
      | some kind => return .shorthand ⟨kind, c.isUpper, start⟩
      | none =>
        if isEscapable c then return .literal ⟨c, .plain⟩
        else
          match c with
          | 'a' => return .literal ⟨'\x07', .bell⟩
          | 'f' => return .literal ⟨'\x0c', .plain⟩
          | 't' => return .literal ⟨'\t', .plain⟩
          | 'n' => return .literal ⟨'\n', .plain⟩
          | 'r' => return .literal ⟨'\r', .plain⟩
          | 'v' => return .literal ⟨'\x0b', .plain⟩
          | 'A' => return .anchor .textStart
          | 'z' => return .anchor .textEnd
          | 'b' => return .anchor (.word (← edgeEscape))
          | 'B' => return .anchor (.word .interior)
          | '<' => return .anchor (.word .start)
          | '>' => return .anchor (.word .finish)
          | _ => throw (.unknownEscape start)

/-! ## Bracket expressions -/

/-- Reads one character or class inside brackets. -/
def bracketItem : Reading SetItem := do
  match ← rest with
  | [] => malformed
  | '\\' :: _ =>
    match ← escape with
    | .literal l => return .literal l
    | .shorthand s => return .shorthand s
    | .property p => return .property p
    | _ => malformed
  | c :: after =>
    setRest after
    return .literal ⟨c, .plain⟩

/-- A named class `[:name:]` at the start of a text, if there is one, and the rest. -/
def bracketNamed? (cs : List Char) : Option (SetItem × List Char) :=
  match cs with
  | '[' :: ':' :: more =>
    let (negated, more) :=
      match more with
      | '^' :: r => (true, r)
      | r => (false, r)
    let name := more.takeWhile (· ≠ ':')
    match more.drop name.length with
    | ':' :: ']' :: after =>
      (CharSet.bracketName? (String.ofList name)).map fun set => (.named set negated, after)
    | _ => none
  | _ => none

/-- The first character that is no blank, whereby one sign `#` may stand among the blanks. -/
def peekSpaced? (verbose : Bool) (cs : List Char) : Option Char :=
  let isBlank (c : Char) : Bool := Unicode.whiteSpace.contains c.toNat
  if verbose then
    match cs.dropWhile isBlank with
    | '#' :: rest => (rest.dropWhile isBlank).head?
    | rest => rest.head?
  else cs.head?

/-- Reads a character, a class or a range. -/
def bracketRange : Reading SetItem := do
  let first ← bracketItem
  skipBlanks
  match ← rest with
  | [] => malformed
  | '-' :: after =>
    let next := peekSpaced? (← verbose) after
    if next = some ']' ∨ next = some '-' then return first
    let _ ← skipToNext
    match first, ← bracketItem with
    | .literal a, .literal b =>
      if a.char ≤ b.char then return .range a b else malformed
    | _, _ => malformed
  | _ => return first

/-- An operation with its left side that waits for its right side. -/
abbrev Pending := Option (SetItem × SetOperation)

/-- Items, last one first, joined with what waits for them. -/
def joinPending (pending : Pending) (items : List SetItem) : SetItem :=
  let right := SetItem.ofList items.reverse
  match pending with
  | some (left, op) => .operation op left right
  | none => right

/-- Reads hyphens at the start of a bracket expression, which stand for themselves. -/
def leadingHyphens : Nat → List SetItem → Reading (List SetItem)
  | 0, items => return items
  | fuel + 1, items => do
    match ← rest with
    | '-' :: _ =>
      let _ ← skipToNext
      leadingHyphens fuel (.literal ⟨'-', .plain⟩ :: items)
    | _ => return items

mutual

/-- Reads a bracket expression, of which the bracket is still to come: whether it is negated, and
what it holds. -/
def bracket : Nat → Reading (Bool × SetItem)
  | 0 => malformed
  | fuel + 1 => do
    let negated := (← skipToNext).head? = some '^'
    if negated then
      let _ ← skipToNext
    let items ← leadingHyphens (← rest).length []
    let items ←
      match items, ← rest with
      | [], ']' :: _ => do
        let _ ← skipToNext
        pure [SetItem.literal ⟨']', .plain⟩]
      | items, _ => pure items
    return (negated, ← bracketRest fuel none items)

/-- Reads the items of a bracket expression up to its end. -/
def bracketRest : Nat → Pending → List SetItem → Reading SetItem
  | 0, _, _ => malformed
  | fuel + 1, pending, items => do
    skipBlanks
    let operation (op : SetOperation) (after : List Char) : Reading SetItem := do
      setRest after
      bracketRest fuel (some (joinPending pending items, op)) []
    match ← rest with
    | [] => malformed
    | ']' :: after =>
      setRest after
      return joinPending pending items
    | '&' :: '&' :: after => operation .inter after
    | '-' :: '-' :: after => operation .diff after
    | '~' :: '~' :: after => operation .symmDiff after
    | '[' :: more =>
      match bracketNamed? ('[' :: more) with
      | some (item, after) =>
        setRest after
        bracketRest fuel pending (item :: items)
      | none =>
        let (negated, content) ← bracket fuel
        bracketRest fuel pending (.bracket negated content :: items)
    | _ => bracketRest fuel pending ((← bracketRange) :: items)

end

/-! ## Repetition -/

/-- Reads a count with blanks around it. -/
def count? (verbose : Bool) (cs : List Char) : Option (Nat × List Char) :=
  let isBlank (c : Char) : Bool := Unicode.whiteSpace.contains c.toNat
  let cs := cs.dropWhile isBlank
  let (digits, cs) := takeSpaced verbose Char.isDigit cs.length cs
  let n := digits.foldl (fun n d => 10 * n + (d.toNat - 48)) 0
  if digits.isEmpty ∨ 1 <<< 32 ≤ n then none
  else some (n, skipBlanksIf verbose (cs.dropWhile isBlank))

/-- Reads the counts of a repetition after the opening brace, and gives the text from the closing
brace on. -/
def counts? (verbose : Bool) (cs : List Char) : Option (Nat × Option Nat × List Char) := do
  let (least, cs) ← count? verbose (skipBlanksIf verbose cs)
  match cs with
  | '\x7d' :: _ => return (least, some least, cs)
  | ',' :: more =>
    let more := skipBlanksIf verbose more
    match more with
    | '\x7d' :: _ => return (least, none, more)
    | _ =>
      let (most, more) ← count? verbose more
      guard (more.head? = some '\x7d' ∧ least ≤ most)
      return (least, some most, more)
  | _ => none

/-- Reads a repetition of the last one of some items, which come last one first. -/
def repetition (items : List Written) : Reading (List Written) := do
  let repeated (least : Nat) (most : Option Nat) : Reading (List Written) := do
    let lazy ← accept "?"
    match items with
    | [] => malformed
    | item :: before =>
      if item.isRepeatable then return .repeated item least most lazy :: before else malformed
  match ← rest with
  | '?' :: _ => do skip; repeated 0 (some 1)
  | '*' :: _ => do skip; repeated 0 none
  | '+' :: _ => do skip; repeated 1 none
  | _ :: after =>
    match counts? (← verbose) after with
    | some (least, most, after) => do
      setRest after
      skip
      skipBlanks
      repeated least most
    | none => malformed
  | [] => malformed

/-! ## Groups -/

/-- Reads settings up to a colon or a closing parenthesis, no switch twice. -/
def settings : Bool → List Char → List Char → Option (List Setting × List Char)
  | _, _, [] => none
  | on, seen, c :: rest =>
    if c = ':' ∨ c = ')' then
      if seen.head? = some '-' then none else some ([], c :: rest)
    else if seen.contains c then none
    else if c = '-' then settings false (c :: seen) rest
    else do
      let switch ← Switch.ofLetter? c
      let (more, rest) ← settings on (c :: seen) rest
      return (⟨switch, on⟩ :: more, rest)

/-- What settings make of a switch. -/
def Setting.apply (settings : List Setting) (switch : Switch) (before : Bool) : Bool :=
  ((settings.find? (·.switch = switch)).map Setting.on).getD before

/-- Whether a character may stand in the name of a group. -/
def isNameChar (first : Bool) (c : Char) : Bool :=
  c = '_' || Unicode.alphabetic.contains c.toNat ||
    (!first && (Unicode.numeral.contains c.toNat || c = '.' || c = '[' || c = ']'))

/-- Reads the name of a group up to the closing angle.  No name is given twice. -/
def groupName : Reading Unit := do
  let cs ← rest
  let name := cs.takeWhile (· ≠ '>')
  if name.length = cs.length then malformed
  match name with
  | [] => malformed
  | c :: more =>
    if !isNameChar true c ∨ !more.all (isNameChar false) then malformed
    if (← get).names.contains name then malformed
    setRest (cs.drop (name.length + 1))
    modify fun cursor => { cursor with names := name :: cursor.names }

/-- The beginnings of look-arounds. -/
def lookPrefixes : List String := ["?=", "?!", "?<=", "?<!"]

/-- Whether the rest starts with a look-around. -/
def startsLook : Reading Bool := do
  let cs ← rest
  return lookPrefixes.any fun p => p.toList.isPrefixOf cs

mutual

/-- Reads branches up to the end of a group or of the text. -/
def readBranches : Nat → Reading (List Written)
  | 0 => malformed
  | fuel + 1 => do
    let first ← readItems fuel []
    if ← accept "|" then return first :: (← readBranches fuel) else return [first]

/-- Reads items up to the end of a branch; `items` are those before, the last one first. -/
def readItems : Nat → List Written → Reading Written
  | 0, _ => malformed
  | fuel + 1, items => do
    skipBlanks
    match ← rest with
    | [] => return .ofItems items.reverse
    | c :: after =>
      match c with
      | ')' => return .ofItems items.reverse
      | '|' => return .ofItems items.reverse
      | '(' =>
        setRest after
        skipBlanks
        readItems fuel ((← readGroup fuel) :: items)
      | '[' =>
        let (negated, content) ← bracket (after.length + 2)
        readItems fuel (.bracket negated content :: items)
      | '\\' => readItems fuel ((← escape) :: items)
      | _ =>
        if c = '?' ∨ c = '*' ∨ c = '+' ∨ c = '\x7b' then readItems fuel (← repetition items)
        else
          setRest after
          let item :=
            match c with
            | '.' => Written.dot
            | '^' => .anchor .lineStart
            | '$' => .anchor .lineEnd
            | _ => .literal ⟨c, .plain⟩
          readItems fuel (item :: items)

/-- Reads a group after its opening parenthesis. -/
def readGroup : Nat → Reading Written
  | 0 => malformed
  | fuel + 1 => do
    let outer ← verbose
    let body (make : Written → Written) : Reading Written := do
      let body ← readBranches fuel
      if !(← accept ")") then malformed
      setVerbose outer
      return make (.ofBranches body)
    if ← startsLook then throw .notRegular
    else if ← accept "?P<" then do
      groupName
      body .capture
    else if ← accept "?<" then do
      groupName
      body .capture
    else if ← accept "?" then
      match settings true [] (← rest) with
      | none => malformed
      | some (list, end_ :: after) =>
        setRest after
        setVerbose (Setting.apply list .verbose outer)
        if end_ = ':' then body (.group list)
        else if list.isEmpty then malformed
        else return .switches list
      | some (_, []) => malformed
    else body .capture

end

/-- Reads a whole text. -/
def Written.read (text : String) : Except Fault Written := do
  let cs := text.toList
  let (branches, cursor) ← (readBranches (3 * cs.length + 4)).run ⟨cs, cs.length, false, []⟩
  let written := Written.ofBranches branches
  if !cursor.rest.isEmpty ∨ Written.nestingLimit < written.nesting then throw .malformed
  return written

end Pattern

end ModelSchema
