import ModelSchema.Pattern.Reader
import ModelSchema.Pattern.Size
import ModelSchema.Unicode.Property

/-!
# What written patterns mean

`Written.toPattern?` gives a written pattern its meaning under the switches in force.  Switches
hold from where they stand to the end of the group, across its branches.

Where Unicode is off, everything is about ASCII: a set must not hold anything else, and cases are
those of ASCII letters.  Other characters may only stand alone.
-/

namespace ModelSchema

namespace Pattern

/-- The switches in force. -/
structure Switches where
  ignoreCase : Bool
  multiLine : Bool
  dotNewline : Bool
  unicode : Bool
  carriageReturn : Bool
  swapGreed : Bool

namespace Switches

/-- All switches are off but Unicode, and ignoring case is as asked for. -/
def initial (ignoreCase : Bool) : Switches := ⟨ignoreCase, false, false, true, false, false⟩

/-- The switches after some settings. -/
def apply (s : Switches) (settings : List Setting) : Switches where
  ignoreCase := Setting.apply settings .ignoreCase s.ignoreCase
  multiLine := Setting.apply settings .multiLine s.multiLine
  dotNewline := Setting.apply settings .dotNewline s.dotNewline
  unicode := Setting.apply settings .unicode s.unicode
  carriageReturn := Setting.apply settings .carriageReturn s.carriageReturn
  swapGreed := Setting.apply settings .swapGreed s.swapGreed

/-- A set up to case, if case is ignored. -/
def fold (s : Switches) (set : CharSet) : CharSet :=
  if s.unicode then .foldIf s.ignoreCase set
  else if s.ignoreCase then .foldCase set ∩ .range 0 0x7F
  else set

/-- A set or its complement, which without Unicode would hold what is not ASCII. -/
def negate? (s : Switches) (negated : Bool) (set : CharSet) : Option CharSet :=
  if negated ∧ !s.unicode then none else some (.negateIf negated set)

end Switches

/-! ## Characters and sets -/

/-- The character that a literal stands for; a byte beyond ASCII is none without Unicode. -/
def Literal.char? (l : Literal) (s : Switches) : Option Char :=
  if !s.unicode ∧ l.spelling = .byte ∧ 0x80 ≤ l.char.toNat then none else some l.char

/-- The character that a literal stands for among others. -/
def Literal.member? (l : Literal) (s : Switches) : Option Char :=
  if !s.unicode ∧ 0x80 ≤ l.char.toNat then none else some l.char

/-- The characters of a kind. -/
def Kind.set (unicode : Bool) : Kind → CharSet
  | digit => if unicode then Unicode.decimalNumber else .asciiDigit
  | space => if unicode then Unicode.whiteSpace else .asciiSpace
  | word => if unicode then Unicode.word else .asciiWord

/-- The set of a shorthand. -/
def Shorthand.set? (h : Shorthand) (s : Switches) : Option CharSet :=
  s.negate? h.negated (h.kind.set s.unicode)

/-- The set of a property, which needs Unicode. -/
def PropertyEscape.set? (p : PropertyEscape) (s : Switches) : Option CharSet :=
  if !s.unicode then none
  else
    match p.name with
    | .name name =>
      (Unicode.property? (String.ofList name)).map fun set => .negateIf p.negated (s.fold set)
    | .value property value unequal =>
      (Unicode.propertyValue? (String.ofList property) (String.ofList value)).map fun set =>
        .negateIf (p.negated != unequal) (s.fold set)

/-- Two sets joined by an operation. -/
def SetOperation.apply : SetOperation → CharSet → CharSet → CharSet
  | inter, a, b => a ∩ b
  | diff, a, b => a \ b
  | symmDiff, a, b => .symmDiff a b

mutual

/-- The set of what stands between brackets. -/
def SetItem.set? (s : Switches) : SetItem → Option CharSet
  | .literal l => (l.member? s).map .single
  | .range first last => do
    let a ← first.member? s
    let b ← last.member? s
    return .range a.toNat b.toNat
  | .named set negated => s.negate? negated (s.fold set)
  | .shorthand h => h.set? s
  | .property p => p.set? s
  | .union items => (SetItem.sets? s items).map .unionOf
  | .bracket negated content => do s.negate? negated (s.fold (← SetItem.set? s content))
  | .operation op left right => do
    let a ← SetItem.set? s left
    let b ← SetItem.set? s right
    return op.apply (s.fold a) (s.fold b)

/-- The sets of items. -/
def SetItem.sets? (s : Switches) : List SetItem → Option (List CharSet)
  | [] => some []
  | item :: rest => do return (← SetItem.set? s item) :: (← SetItem.sets? s rest)

end

/-! ## Conditions -/

/-- The condition of an anchor. -/
def Anchor.condition (s : Switches) : Anchor → Assertion
  | lineStart => if s.multiLine then .lineStart s.carriageReturn else .textStart
  | lineEnd => if s.multiLine then .lineEnd s.carriageReturn else .textEnd
  | textStart => .textStart
  | textEnd => .textEnd
  | word edge => .word edge !s.unicode

/-- What a dot stands for, which needs Unicode. -/
def dotSet? (s : Switches) : Option CharSet :=
  if !s.unicode then none
  else if s.dotNewline then some (.complement .none)
  else if s.carriageReturn then some (.complement (.ofList [10, 13]))
  else some (.complement (.ofList [10]))

/-! ## Patterns -/

/-- The pattern of one character. -/
def Literal.toPattern? (l : Literal) (s : Switches) : Option Pattern :=
  (l.char? s).map fun c =>
    .chars (if s.unicode ∨ c.toNat < 0x80 then s.fold (.single c) else .single c)

namespace Written

mutual

/-- The pattern of a written one, and the switches after it. -/
def meaning? : Written → Switches → Option (Pattern × Switches)
  | empty, s => some (.empty, s)
  | switches settings, s => some (.empty, s.apply settings)
  | literal l, s => (l.toPattern? s).map (·, s)
  | dot, s => (dotSet? s).map (.chars ·, s)
  | anchor a, s => some (.assertion (a.condition s), s)
  | shorthand h, s => (h.set? s).map (.chars ·, s)
  | property p, s => (p.set? s).map (.chars ·, s)
  | bracket negated content, s => do
    let set ← s.negate? negated (s.fold (← content.set? s))
    return (.chars set, s)
  | repeated body least most lazy, s => do
    let (p, s) ← body.meaning? s
    return (.repeated p least most (lazy == s.swapGreed), s)
  | capture body, s => do
    let (p, _) ← body.meaning? s
    return (.capture p, s)
  | group settings body, s => do
    let (p, _) ← body.meaning? (s.apply settings)
    return (p, s)
  | choice branches, s => do
    let (ps, s) ← meanings? branches s
    return (.inChoice ps, s)
  | sequence items, s => do
    let (ps, s) ← meanings? items s
    return (.inSequence ps, s)

/-- The patterns of written ones from first to last, and the switches after them. -/
def meanings? : List Written → Switches → Option (List Pattern × Switches)
  | [], s => some ([], s)
  | item :: rest, s => do
    let (p, s) ← item.meaning? s
    let (ps, s) ← meanings? rest s
    return (p :: ps, s)

end

/-- The pattern of a written one. -/
def toPattern? (written : Written) (ignoreCase : Bool) : Option Pattern :=
  (written.meaning? (.initial ignoreCase)).map (·.1)

end Written

/-- The pattern of a check on values, if the text is one and not too large. -/
def forCheck? (text : String) (ignoreCase : Bool) : Option Pattern := do
  let written ← (Written.read text).toOption
  let pattern ← written.toPattern? ignoreCase
  guard pattern.isSmall
  return pattern

end Pattern

end ModelSchema
