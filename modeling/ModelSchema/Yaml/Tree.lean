import ModelSchema.Yaml.Scanner

/-!
# From tokens to trees

A tree is a YAML document as it is written: tags are complete, and anchors and aliases are still
there.  A text can hold several documents, each with directives of its own.
-/

namespace ModelSchema

namespace Yaml

/-- A document as it is written.  Anchors and aliases are known by an `α`. -/
inductive Tree (α : Type) where
  | alias (anchor : α)
  | scalar (anchor : Option α) (tag : Option Tag) (style : Style) (text : String)
  | sequence (anchor : Option α) (tag : Option Tag) (items : List (Tree α))
  | mapping (anchor : Option α) (tag : Option Tag) (entries : List (Tree α × Tree α))

namespace Tree

/-- A value that is not written. -/
def absent {α : Type} : Tree α := scalar none none .plain ""

end Tree

/-- The tokens still to read, and the tags that handles stand for. -/
structure TokenCursor where
  tokens : List Token
  handles : List (String × List UInt8)

/-- A step over tokens, which fails on malformed documents. -/
abbrev Parse := StateT TokenCursor Option

namespace Parse

/-- The next token. -/
def peek : Parse Token := return (← get).tokens.head?.getD .streamEnd

/-- Skips a token. -/
def skip : Parse Unit := modify fun s => { s with tokens := s.tokens.drop 1 }

/-- Skips a token if it is a given one. -/
def accept (token : Token) : Parse Bool := do
  if (← peek) = token then
    skip
    return true
  else return false

/-- Handles that need no directive. -/
def standardHandles : List (String × List UInt8) :=
  [("!", [Tag.mark]), ("!!", Tag.core.toUTF8.toList)]

/-- The complete tag for a handle and a suffix. -/
def resolveTag (handle : String) (suffix : List UInt8) : Parse Tag := do
  if handle.isEmpty then return .ofBytes suffix
  match (← get).handles.lookup handle with
  | some start => return .ofBytes (start ++ suffix)
  | none => failure

/-- Reads an anchor and a tag, in any order. -/
def nodeProperties : Parse (Option String × Option Tag) := do
  let anchor : Parse (Option String) := do
    match ← peek with
    | .anchor name =>
      skip
      return some name
    | _ => return none
  let tag : Parse (Option Tag) := do
    match ← peek with
    | .tag handle suffix =>
      skip
      return some (← resolveTag handle suffix)
    | _ => return none
  match ← anchor with
  | some name => return (some name, ← tag)
  | none =>
    let t ← tag
    return (← anchor, t)

/-- Whether a token leaves no room for a node in a block mapping. -/
def endsBlockValue (token : Token) : Bool :=
  token = .key || token = .value || token = .blockEnd

/-- Whether a token leaves no room for a node between brackets. -/
def endsFlowValue (closing token : Token) : Bool :=
  token = .value || token = .flowEntry || token = closing

mutual

/-- Reads a node.  `block` admits block collections, `bare` a sequence at the indentation of the
mapping around it. -/
def node : Nat → Bool → Bool → Parse (Tree String)
  | 0, _, _ => failure
  | fuel + 1, block, bare => do
    match ← peek with
    | .alias name =>
      skip
      return .alias name
    | _ =>
      let (anchor, tag) ← nodeProperties
      let token ← peek
      if bare ∧ token = .blockEntry then return .sequence anchor tag (← bareItems fuel)
      match token with
      | .scalar style text =>
        skip
        return .scalar anchor tag style text
      | .flowSequenceStart =>
        skip
        return .sequence anchor tag (← flowItems fuel true)
      | .flowMappingStart =>
        skip
        return .mapping anchor tag (← flowEntries fuel true)
      | .blockSequenceStart =>
        if !block then failure
        skip
        return .sequence anchor tag (← blockItems fuel)
      | .blockMappingStart =>
        if !block then failure
        skip
        return .mapping anchor tag (← blockEntries fuel)
      | _ =>
        if anchor.isSome ∨ tag.isSome then return .scalar anchor tag .plain ""
        failure

/-- Reads the items of a block sequence. -/
def blockItems : Nat → Parse (List (Tree String))
  | 0 => failure
  | fuel + 1 => do
    if ← accept .blockEntry then
      let next ← peek
      let item ←
        if next = .blockEntry ∨ next = .blockEnd then pure Tree.absent else node fuel true false
      return item :: (← blockItems fuel)
    if ← accept .blockEnd then return []
    failure

/-- Reads the items of a sequence at the indentation of the mapping around it. -/
def bareItems : Nat → Parse (List (Tree String))
  | 0 => failure
  | fuel + 1 => do
    if ← accept .blockEntry then
      let next ← peek
      let item ←
        if next = .blockEntry ∨ endsBlockValue next then pure Tree.absent
        else node fuel true false
      return item :: (← bareItems fuel)
    return []

/-- Reads the entries of a block mapping. -/
def blockEntries : Nat → Parse (List (Tree String × Tree String))
  | 0 => failure
  | fuel + 1 => do
    if ← accept .key then
      let key ← if endsBlockValue (← peek) then pure Tree.absent else node fuel true true
      let value ←
        if ← accept .value then
          if endsBlockValue (← peek) then pure Tree.absent else node fuel true true
        else pure Tree.absent
      return (key, value) :: (← blockEntries fuel)
    if ← accept .blockEnd then return []
    failure

/-- Reads the items of a sequence in brackets.  An item may be a single entry. -/
def flowItems : Nat → Bool → Parse (List (Tree String))
  | 0, _ => failure
  | fuel + 1, first => do
    if ← accept .flowSequenceEnd then return []
    if !first then
      if !(← accept .flowEntry) then failure
    if ← accept .flowSequenceEnd then return []
    let item ←
      if ← accept .key then
        let key ←
          if endsFlowValue .flowSequenceEnd (← peek) then
            skip
            pure Tree.absent
          else node fuel false false
        let value ← flowValue fuel .flowSequenceEnd
        pure (Tree.mapping none none [(key, value)])
      else node fuel false false
    return item :: (← flowItems fuel false)

/-- Reads the entries of a mapping in braces. -/
def flowEntries : Nat → Bool → Parse (List (Tree String × Tree String))
  | 0, _ => failure
  | fuel + 1, first => do
    if ← accept .flowMappingEnd then return []
    if !first then
      if !(← accept .flowEntry) then failure
    if ← accept .flowMappingEnd then return []
    if ← accept .key then
      let key ←
        if endsFlowValue .flowMappingEnd (← peek) then pure Tree.absent
        else node fuel false false
      let value ← flowValue fuel .flowMappingEnd
      return (key, value) :: (← flowEntries fuel false)
    let key ← node fuel false false
    return (key, Tree.absent) :: (← flowEntries fuel false)

/-- Reads the value of an entry between brackets, if one is written. -/
def flowValue : Nat → Token → Parse (Tree String)
  | 0, _ => failure
  | fuel + 1, closing => do
    if ← accept .value then
      let next ← peek
      if next = .flowEntry ∨ next = closing then return Tree.absent
      node fuel false false
    else return Tree.absent

end

/-- Reads directives up to the start of a document.  At most one gives the version, which is 1.1 or
1.2, and none gives a handle twice. -/
def directives : Nat → Bool → List (String × List UInt8) → Parse (List (String × List UInt8))
  | 0, _, _ => failure
  | fuel + 1, versioned, handles => do
    match ← peek with
    | .versionDirective major minor =>
      if versioned ∨ major ≠ 1 ∨ (minor ≠ 1 ∧ minor ≠ 2) then failure
      skip
      directives fuel true handles
    | .tagDirective handle start =>
      if (handles.lookup handle).isSome then failure
      skip
      directives fuel versioned ((handle, start) :: handles)
    | _ => return handles

/-- Skips marks of the end of a document. -/
def skipEnds : Nat → Parse Unit
  | 0 => pure ()
  | fuel + 1 => do
    if ← accept .documentEnd then skipEnds fuel

/-- Whether a token leaves a document without content. -/
def endsDocument : Token → Bool
  | .versionDirective _ _ => true
  | .tagDirective _ _ => true
  | .documentStart => true
  | .documentEnd => true
  | .streamEnd => true
  | _ => false

/-- Whether a document begins with this token although no mark begins it. -/
def beginsBareDocument (token : Token) : Bool :=
  !endsDocument token || token = .documentEnd

/-- Reads all documents.  Only the first may begin without a mark. -/
def documents : Nat → Bool → Parse (List (Tree String))
  | 0, _ => failure
  | fuel + 1, first => do
    let bound := 4 * (← get).tokens.length + 16
    if !first then skipEnds bound
    let token ← peek
    if token = .streamEnd then return []
    if first ∧ beginsBareDocument token then
      modify fun s => { s with handles := standardHandles }
      let tree ← node bound true false
      let _ ← accept .documentEnd
      return tree :: (← documents fuel false)
    let handles ← directives bound false []
    if !(← accept .documentStart) then failure
    modify fun s => { s with handles := handles ++ standardHandles }
    let tree ← if endsDocument (← peek) then pure Tree.absent else node bound true false
    let _ ← accept .documentEnd
    return tree :: (← documents fuel false)

end Parse

/-- The documents of a text; none if the text is malformed. -/
def trees? (text : String) : Option (List (Tree String)) := do
  let tokens ← tokens? text
  let (trees, _) ← (Parse.documents (tokens.length + 1) true).run ⟨tokens, []⟩
  return trees

end Yaml

end ModelSchema
