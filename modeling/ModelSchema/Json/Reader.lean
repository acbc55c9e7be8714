import ModelSchema.Json.Basic
import ModelSchema.Number.Decimal

/-!
# Reading JSON text

`Json.parse?` reads RFC 8259 text: one value, blanks around it, nothing else.  Raw control
characters and lone surrogates in strings, numbers beyond the range of doubles and nesting of 128
levels and more are refused.

A number without fraction and exponent that fits 64 bits, signed or unsigned, is an integer.  Any
other number is a double, found in two rounded steps: the leading digits as an integer below
`2 ^ 64`, later digits being dropped, and then one product with, or quotient by, a power of ten.
-/

namespace ModelSchema

namespace Json

/-- Blanks between tokens. -/
def isBlank (c : Char) : Bool := c = ' ' || c = '\n' || c = '\t' || c = '\r'

/-- The text without blanks at its start. -/
def skipBlanks (cs : List Char) : List Char := cs.dropWhile isBlank

/-- The rest of a text that starts with a word. -/
def afterWord? : List Char → List Char → Option (List Char)
  | [], cs => some cs
  | _ :: _, [] => none
  | w :: word, c :: cs => if w = c then afterWord? word cs else none

/-! ## Numbers -/

/-- The largest integer that leading digits may reach. -/
def significandLimit : Nat := (1 <<< 64) - 1

/-- The leading digits of a number: their value, and how many digits were dropped because the
value would no longer fit. -/
structure Leading where
  value : Nat
  dropped : Nat

/-- Reads the digits before the point.  After the first digit that does not fit, all are
dropped. -/
def leadingWhole (cs : List Char) : Leading :=
  cs.foldl
    (fun acc c =>
      let next := 10 * acc.value + (c.toNat - 48)
      if acc.dropped = 0 ∧ next ≤ significandLimit then ⟨next, 0⟩
      else ⟨acc.value, acc.dropped + 1⟩)
    ⟨0, 0⟩

/-- Appends the digits after the point up to the first that does not fit; also gives how many
were taken. -/
def leadingFraction (start : Nat) : List Char → Nat × Nat
  | [] => (start, 0)
  | c :: rest =>
    let next := 10 * start + (c.toNat - 48)
    if next ≤ significandLimit then
      let (value, taken) := leadingFraction next rest
      (value, taken + 1)
    else (start, 0)

/-- A double times a power of ten; exponents below -308 divide in steps of `10 ^ 308`.  None on
overflow. -/
def scaleByTen : Nat → Binary64 → Int → Option Binary64
  | 0, _, _ => none
  | fuel + 1, x, e =>
    if e.natAbs ≤ 308 then
      if 0 ≤ e then x.mul? (.powerOfTen e.natAbs) else x.div? (.powerOfTen e.natAbs)
    else if x.isZero then some x
    else if 0 ≤ e then none
    else (x.div? (.powerOfTen 308)).bind fun y => scaleByTen fuel y (e + 308)

/-- The double with a sign, leading digits and a power of ten.  A power below -2000 gives zero
whatever the digits are. -/
def ofLeading (negative : Bool) (value : Nat) (exponent : Int) : Option Binary64 :=
  (scaleByTen 10 (.ofInt value) (max exponent (-2000))).map fun x =>
    if negative then x.negate else x

/-- An exponent: a sign and digits. -/
structure ExponentPart where
  negative : Bool
  digits : List Char

/-- The largest exponent that is not decided by its sign alone. -/
def exponentLimit : Nat := (1 <<< 31) - 1

/-- The double with leading digits, a power of ten and a written exponent. -/
def withExponent (negative : Bool) (value : Nat) (power : Int) (e : ExponentPart) :
    Option Binary64 :=
  let size := Double.digitsValue e.digits
  if exponentLimit < size then
    if value ≠ 0 ∧ !e.negative then none else some (.zero negative)
  else ofLeading negative value (if e.negative then power - size else power + size)

/-- The parts of a number as written. -/
structure NumberText where
  negative : Bool
  whole : List Char
  fraction : Option (List Char)
  exponent : Option ExponentPart

/-- Splits a number off a text. -/
def numberText? (cs : List Char) : Option (NumberText × List Char) := do
  let (negative, cs) :=
    match cs with
    | '-' :: r => (true, r)
    | r => (false, r)
  let whole := cs.takeWhile Char.isDigit
  let cs := cs.dropWhile Char.isDigit
  if whole.isEmpty ∨ (whole.length > 1 ∧ whole.head? = some '0') then none
  let (fraction, cs) :=
    match cs with
    | '.' :: r => (some (r.takeWhile Char.isDigit), r.dropWhile Char.isDigit)
    | r => (none, r)
  if fraction = some [] then none
  match cs with
  | c :: r =>
    if c = 'e' ∨ c = 'E' then
      let (down, r) :=
        match r with
        | '-' :: r => (true, r)
        | '+' :: r => (false, r)
        | r => (false, r)
      let digits := r.takeWhile Char.isDigit
      if digits.isEmpty then none
      else some (⟨negative, whole, fraction, some ⟨down, digits⟩⟩, r.dropWhile Char.isDigit)
    else some (⟨negative, whole, fraction, none⟩, cs)
  | [] => some (⟨negative, whole, fraction, none⟩, [])

/-- The integers that stay integers: those of 64 bits, signed or unsigned. -/
def fitsInteger (n : Int) : Bool := -(1 <<< 63 : Nat) ≤ n && n < (1 <<< 64 : Nat)

/-- The number that a text stands for.  Minus zero is a double. -/
def NumberText.value? (t : NumberText) : Option Number :=
  let whole := leadingWhole t.whole
  match t.fraction, t.exponent with
  | none, none =>
    if whole.dropped = 0 then
      let n : Int := if t.negative then -(whole.value : Int) else whole.value
      if fitsInteger n ∧ ¬(t.negative ∧ n = 0) then some (.int n)
      else
        let x := Binary64.ofInt whole.value
        some (.float (if t.negative then x.negate else x))
    else (ofLeading t.negative whole.value whole.dropped).map .float
  | none, some e => (withExponent t.negative whole.value whole.dropped e).map .float
  | some fraction, e? =>
    let (value, taken) := leadingFraction whole.value fraction
    let power := (whole.dropped : Int) - taken
    match e? with
    | none => (ofLeading t.negative value power).map .float
    | some e => (withExponent t.negative value power e).map .float

/-! ## Strings -/

/-- The value of a hexadecimal digit. -/
def hexValue? (c : Char) : Option Nat :=
  if '0' ≤ c ∧ c ≤ '9' then some (c.toNat - 48)
  else if 'a' ≤ c ∧ c ≤ 'f' then some (c.toNat - 87)
  else if 'A' ≤ c ∧ c ≤ 'F' then some (c.toNat - 55)
  else none

/-- Four hexadecimal digits. -/
def hexFour? : List Char → Option (Nat × List Char)
  | a :: b :: c :: d :: rest => do
    let a ← hexValue? a
    let b ← hexValue? b
    let c ← hexValue? c
    let d ← hexValue? d
    some (4096 * a + 256 * b + 16 * c + d, rest)
  | _ => none

/-- The character that an escape letter stands for. -/
def simpleEscape? (c : Char) : Option Char :=
  if c = '"' then some '"'
  else if c = '\\' then some '\\'
  else if c = '/' then some '/'
  else if c = 'b' then some '\x08'
  else if c = 'f' then some '\x0c'
  else if c = 'n' then some '\n'
  else if c = 'r' then some '\r'
  else if c = 't' then some '\t'
  else none

/-- The character of a `\u` escape; a pair of surrogates makes one character, a lone one none. -/
def unicodeEscape? (cs : List Char) : Option (Char × List Char) := do
  let (first, rest) ← hexFour? cs
  if 0xD800 ≤ first ∧ first < 0xDC00 then
    match rest with
    | '\\' :: 'u' :: more =>
      let (second, rest) ← hexFour? more
      if 0xDC00 ≤ second ∧ second < 0xE000 then
        some (Char.ofNat (0x10000 + (first - 0xD800) * 1024 + (second - 0xDC00)), rest)
      else none
    | _ => none
  else if 0xDC00 ≤ first ∧ first < 0xE000 then none
  else some (Char.ofNat first, rest)

/-- Reads a string after its opening quote; `fuel` bounds its length. -/
def stringRest? : Nat → List Char → List Char → Option (String × List Char)
  | 0, _, _ => none
  | _ + 1, _, [] => none
  | fuel + 1, acc, c :: cs =>
    if c = '"' then some (String.ofList acc.reverse, cs)
    else if c = '\\' then
      match cs with
      | 'u' :: more => (unicodeEscape? more).bind fun (d, rest) => stringRest? fuel (d :: acc) rest
      | e :: rest => (simpleEscape? e).bind fun d => stringRest? fuel (d :: acc) rest
      | [] => none
    else if c.toNat < 32 then none
    else stringRest? fuel (c :: acc) cs

/-! ## Values -/

/-- How many levels arrays and objects may nest. -/
def depthLimit : Nat := 127

mutual

/-- Reads a value; `fuel` bounds the number of tokens, `depth` the levels that may still open. -/
def value? : Nat → Nat → List Char → Option (Json × List Char)
  | 0, _, _ => none
  | fuel + 1, depth, cs =>
    match skipBlanks cs with
    | [] => none
    | c :: rest =>
      if c = '"' then (stringRest? (rest.length + 1) [] rest).map fun (s, r) => (.string s, r)
      else if c = '[' then
        match depth with
        | 0 => none
        | depth + 1 =>
          match skipBlanks rest with
          | ']' :: r => some (.array [], r)
          | r => (items? fuel depth r).map fun (items, r) => (.array items, r)
      else if c.toNat = 0x7b then
        match depth with
        | 0 => none
        | depth + 1 =>
          match skipBlanks rest with
          | [] => none
          | d :: r =>
            if d.toNat = 0x7d then some (.object [], r)
            else (members? fuel depth (d :: r)).map fun (members, r) => (.object members, r)
      else if c = 'n' then (afterWord? "ull".toList rest).map fun r => (.null, r)
      else if c = 't' then (afterWord? "rue".toList rest).map fun r => (.bool true, r)
      else if c = 'f' then (afterWord? "alse".toList rest).map fun r => (.bool false, r)
      else do
        let (text, r) ← numberText? (c :: rest)
        let n ← text.value?
        some (.number n, r)

/-- Reads the items of an array up to its closing bracket. -/
def items? : Nat → Nat → List Char → Option (List Json × List Char)
  | 0, _, _ => none
  | fuel + 1, depth, cs => do
    let (item, r) ← value? fuel depth cs
    match skipBlanks r with
    | ',' :: r =>
      let (items, r) ← items? fuel depth r
      some (item :: items, r)
    | ']' :: r => some ([item], r)
    | _ => none

/-- Reads the members of an object up to its closing brace. -/
def members? : Nat → Nat → List Char → Option (List (String × Json) × List Char)
  | 0, _, _ => none
  | fuel + 1, depth, cs =>
    match skipBlanks cs with
    | '"' :: r => do
      let (name, r) ← stringRest? (r.length + 1) [] r
      match skipBlanks r with
      | ':' :: r =>
        let (value, r) ← value? fuel depth r
        match skipBlanks r with
        | ',' :: r =>
          let (members, r) ← members? fuel depth r
          some ((name, value) :: members, r)
        | c :: r => if c.toNat = 0x7d then some ([(name, value)], r) else none
        | [] => none
      | _ => none
    | _ => none

end

/-- Reads a text that holds one value.  Repeated member names stay as they are written. -/
def read? (text : String) : Option Json := do
  let cs := text.toList
  let (value, rest) ← value? (cs.length + 1) depthLimit cs
  if (skipBlanks rest).isEmpty then some value else none

/-- Reads a text that holds one value; a repeated member name keeps its first place and its last
value. -/
def parse? (text : String) : Option Json := (read? text).map collapse

end Json

end ModelSchema
