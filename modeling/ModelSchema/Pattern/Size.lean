import ModelSchema.Pattern.Basic

/-!
# The size of patterns

A pattern is refused if the automaton for it would take too much memory.  `Pattern.memory` counts
the bytes of that automaton: 32 for a state, 4 or 8 for every further edge.  The automaton reads
UTF-8, so a set of characters takes as many states as there are different beginnings of the byte
sequences for its members; and every round of a counted repetition has states of its own.
-/

namespace ModelSchema

/-! ## Characters as byte sequences -/

namespace Utf8

/-- A range of bytes. -/
abbrev ByteRange := Nat × Nat

/-- The bytes of a code point. -/
def bytes (n : Nat) : List Nat :=
  if n < 0x80 then [n]
  else if n < 0x800 then [0xC0 + n / 64, 0x80 + n % 64]
  else if n < 0x10000 then [0xE0 + n / 4096, 0x80 + n / 64 % 64, 0x80 + n % 64]
  else [0xF0 + n / 262144, 0x80 + n / 4096 % 64, 0x80 + n / 64 % 64, 0x80 + n % 64]

/-- Where a range has to be cut so that both its parts are rows of byte ranges of equal length:
before and after the surrogates, where the number of bytes changes, and where the last bytes do
not run through all their values. -/
def cut? (first last : Nat) : Option (Nat × Nat) :=
  if first < 0xE000 ∧ 0xD7FF < last then some (0xD7FF, 0xE000)
  else
    match [0x7F, 0x7FF, 0xFFFF].find? fun n => first ≤ n && n < last with
    | some n => some (n, n + 1)
    | none =>
      if last < 0x80 then none
      else
        [64, 4096, 262144].findSome? fun block =>
          if first / block = last / block then none
          else if first % block ≠ 0 then
            let n := (first / block + 1) * block
            some (n - 1, n)
          else if last % block ≠ block - 1 then
            let n := last / block * block
            some (n - 1, n)
          else none

/-- The byte sequences of the code points of a range, as rows of byte ranges.  A range is cut at
most a few dozen times. -/
def rows : Nat → Nat → Nat → List (List ByteRange)
  | 0, _, _ => []
  | fuel + 1, first, last =>
    if last < first then []
    else
      match cut? first last with
      | some (a, b) => rows fuel first a ++ rows fuel b last
      | none => [(bytes first).zip (bytes last)]

/-- The number of leading entries that two rows share. -/
def sharedLength : List ByteRange → List ByteRange → Nat
  | a :: r, b :: s => if a = b then sharedLength r s + 1 else 0
  | _, _ => 0

/-- The number of different beginnings of rows in order. -/
def beginnings : List ByteRange → List (List ByteRange) → Nat
  | _, [] => 0
  | before, row :: rest => row.length - sharedLength before row + beginnings row rest

end Utf8

namespace Pattern

/-- The memory for a set of characters. -/
def setMemory (set : CharSet) : Nat :=
  match set.ranges with
  | [] => 32
  | [(first, last)] =>
    if first = last then 32 * (Utf8.bytes first).length else rangesMemory [(first, last)]
  | ranges => rangesMemory ranges
where
  /-- The memory for ranges of characters. -/
  rangesMemory (ranges : List (Nat × Nat)) : Nat :=
    if ranges.all fun r => r.2 < 0x80 then
      64 + if ranges.length = 1 then 0 else 8 * ranges.length
    else
      let rows := ranges.flatMap fun r => Utf8.rows 32 r.1 r.2
      32 * (Utf8.beginnings [] rows + 2) + 4 * rows.length

/-- Whether a pattern can match the empty text only. -/
def isAlwaysEmpty : Pattern → Bool
  | empty => true
  | chars _ => false
  | assertion _ => true
  | sequence first second => first.isAlwaysEmpty && second.isAlwaysEmpty
  | choice first second => first.isAlwaysEmpty && second.isAlwaysEmpty
  | repeated body _ most _ => body.isAlwaysEmpty || most == some 0
  | capture body => body.isAlwaysEmpty

/-- Whether a pattern can match the empty text. -/
def mayBeEmpty : Pattern → Bool
  | empty => true
  | chars _ => false
  | assertion _ => true
  | sequence first second => first.mayBeEmpty && second.mayBeEmpty
  | choice first second => first.mayBeEmpty || second.mayBeEmpty
  | repeated body least _ _ => body.mayBeEmpty || least == 0
  | capture body => body.mayBeEmpty

/-- The memory for a repetition of a body that takes `body` bytes. -/
def loopMemory (body : Nat) (mayBeEmpty : Bool) : Nat → Option Nat → Nat
  | 0, none => body + if mayBeEmpty then 112 else 40
  | least, none => least * body + 40
  | 0, some 0 => 32
  | 0, some 1 => body + 72
  | least, some most =>
    if least = most then least * body
    else (if least = 0 then 64 else least * body + 32) + (most - least) * (body + 40)

/-- The memory for a pattern. -/
def memory : Pattern → Nat
  | empty => 32
  | chars set => setMemory set
  | assertion _ => 32
  | sequence first second => first.memory + second.memory
  | choice first second =>
    first.memory + 4 +
      match second with
      | choice _ _ => second.memory
      | _ => second.memory + 68
  | repeated body least most _ =>
    if body.isAlwaysEmpty then
      loopMemory body.memory true (min least 1) (some (min (most.getD 1) 1))
    else loopMemory body.memory body.mayBeEmpty least most
  | capture body => body.memory + 64

/-- The memory that every pattern takes besides its own. -/
def baseMemory : Nat := 200

/-- The memory up to which patterns are accepted. -/
def memoryLimit : Nat := 10 <<< 20

/-- Whether a pattern is small enough to be accepted. -/
def isSmall (pattern : Pattern) : Bool := pattern.memory + baseMemory ≤ memoryLimit

end Pattern

end ModelSchema
