import ModelSchema.Unicode.CaseFolding

/-!
# Sets of characters

A character set is an expression over runs of code points.  `CharSet.contains` is its meaning:
membership of a code point.  `CharSet.ranges` lists the members in increasing order, as ranges
that neither overlap nor touch.
-/

namespace ModelSchema

/-- A set of characters. -/
inductive CharSet where
  | runs (list : List Unicode.Run)
  | union (a b : CharSet)
  | inter (a b : CharSet)
  | diff (a b : CharSet)
  | symmDiff (a b : CharSet)
  | complement (a : CharSet)
  /-- All characters that equal a member up to case. -/
  | foldCase (a : CharSet)

namespace CharSet

/-- Membership of a code point. -/
def contains : CharSet → Nat → Bool
  | runs list, n => Unicode.onRun list n
  | union a b, n => a.contains n || b.contains n
  | inter a b, n => a.contains n && b.contains n
  | diff a b, n => a.contains n && !b.contains n
  | symmDiff a b, n => a.contains n != b.contains n
  | complement a, n => !a.contains n
  | foldCase a, n => (Unicode.caseVariants n).any a.contains

instance : Union CharSet := ⟨union⟩

instance : Inter CharSet := ⟨inter⟩

instance : SDiff CharSet := ⟨diff⟩

/-- The code points from a first to a last one. -/
def range (first last : Nat) : CharSet := runs [⟨first, last, 1⟩]

/-- Some code points. -/
def ofList (codes : List Nat) : CharSet := runs (codes.map fun n => ⟨n, n, 1⟩)

/-- No character. -/
def none : CharSet := runs []

/-- One character. -/
def single (c : Char) : CharSet := range c.toNat c.toNat

/-- The union of a list of sets. -/
def unionOf : List CharSet → CharSet
  | [] => none
  | [a] => a
  | a :: rest => union a (unionOf rest)

/-- The set up to case, if case is ignored. -/
def foldIf (ignoreCase : Bool) (a : CharSet) : CharSet := if ignoreCase then foldCase a else a

/-- The set or what it leaves out. -/
def negateIf (negated : Bool) (a : CharSet) : CharSet := if negated then complement a else a

/-! ## Members in order -/

/-- The last code point. -/
def lastCode : Nat := 0x10FFFF

/-- Ranges in the order of their first members, put together where they overlap or touch; a range
comes before them. -/
def joinFrom (first last : Nat) : List (Nat × Nat) → List (Nat × Nat)
  | [] => [(first, last)]
  | (a, b) :: rest =>
    if a ≤ last + 1 then joinFrom first (max last b) rest
    else (first, last) :: joinFrom a b rest

/-- Ranges in order, put together. -/
def normalized (ranges : List (Nat × Nat)) : List (Nat × Nat) :=
  match ranges.mergeSort fun a b => a.1 ≤ b.1 with
  | [] => []
  | (first, last) :: rest => joinFrom first last rest

/-- What ranges in order leave out from a code point on. -/
def gaps : Nat → List (Nat × Nat) → List (Nat × Nat)
  | start, [] => if start ≤ lastCode then [(start, lastCode)] else []
  | start, (first, last) :: rest =>
    if start < first then (start, first - 1) :: gaps (last + 1) rest else gaps (last + 1) rest

/-- The ranges of a run. -/
def runRanges (r : Unicode.Run) : List (Nat × Nat) :=
  if r.step ≤ 1 then [(r.first, r.last)]
  else
    (List.range ((r.last - r.first) / r.step + 1)).map fun i =>
      (r.first + i * r.step, r.first + i * r.step)

/-- The characters that some fold to, and those that fold. -/
def casedCodes : List Nat :=
  Unicode.foldRuns.flatMap fun r =>
    (runRanges r.run).flatMap fun (first, last) =>
      (List.range (last - first + 1)).flatMap fun i =>
        [first + i, Unicode.simpleFold (first + i)]

/-- How many members ranges have. -/
def memberCount (ranges : List (Nat × Nat)) : Nat :=
  ranges.foldl (fun n (a, b) => n + (b - a + 1)) 0

/-- The ranges of the members and of what equals them up to case.  A few members are looked up one
by one; otherwise the characters with case are. -/
def foldedRanges (ranges : List (Nat × Nat)) : List (Nat × Nat) :=
  let variants :=
    if memberCount ranges ≤ 512 then
      ranges.flatMap fun (first, last) =>
        (List.range (last - first + 1)).flatMap fun i => Unicode.caseVariants (first + i)
    else
      casedCodes.filter fun n =>
        (Unicode.caseVariants n).any fun m => ranges.any fun (a, b) => a ≤ m && m ≤ b
  normalized (ranges ++ variants.map fun n => (n, n))

/-- The members in increasing order. -/
def ranges : CharSet → List (Nat × Nat)
  | runs list => normalized (list.flatMap runRanges)
  | union a b => normalized (a.ranges ++ b.ranges)
  | inter a b => gaps 0 (normalized (gaps 0 a.ranges ++ gaps 0 b.ranges))
  | diff a b => gaps 0 (normalized (gaps 0 a.ranges ++ b.ranges))
  | symmDiff a b =>
    normalized (gaps 0 (normalized (gaps 0 a.ranges ++ b.ranges)) ++
      gaps 0 (normalized (a.ranges ++ gaps 0 b.ranges)))
  | complement a => gaps 0 a.ranges
  | foldCase a => foldedRanges a.ranges

/-! ## Sets of ASCII characters -/

/-- The digits `0` to `9`. -/
def asciiDigit : CharSet := range 0x30 0x39

/-- The ASCII letters in both cases. -/
def asciiLetter : CharSet := runs [⟨0x41, 0x5A, 1⟩, ⟨0x61, 0x7A, 1⟩]

/-- ASCII letters, digits and the underscore. -/
def asciiWord : CharSet :=
  runs [⟨0x30, 0x39, 1⟩, ⟨0x41, 0x5A, 1⟩, ⟨0x5F, 0x5F, 1⟩, ⟨0x61, 0x7A, 1⟩]

/-- The ASCII white space: tab to carriage return, and the space. -/
def asciiSpace : CharSet := runs [⟨9, 13, 1⟩, ⟨32, 32, 1⟩]

/-- The sets that a bracket expression may name as `[:name:]`. -/
def bracketName? (name : String) : Option CharSet :=
  match name with
  | "alnum" => some (runs [⟨0x30, 0x39, 1⟩, ⟨0x41, 0x5A, 1⟩, ⟨0x61, 0x7A, 1⟩])
  | "alpha" => some asciiLetter
  | "ascii" => some (range 0 0x7F)
  | "blank" => some (ofList [9, 32])
  | "cntrl" => some (runs [⟨0, 0x1F, 1⟩, ⟨0x7F, 0x7F, 1⟩])
  | "digit" => some asciiDigit
  | "graph" => some (range 0x21 0x7E)
  | "lower" => some (range 0x61 0x7A)
  | "print" => some (range 0x20 0x7E)
  | "punct" =>
    some (runs [⟨0x21, 0x2F, 1⟩, ⟨0x3A, 0x40, 1⟩, ⟨0x5B, 0x60, 1⟩, ⟨0x7B, 0x7E, 1⟩])
  | "space" => some asciiSpace
  | "upper" => some (range 0x41 0x5A)
  | "word" => some asciiWord
  | "xdigit" => some (runs [⟨0x30, 0x39, 1⟩, ⟨0x41, 0x46, 1⟩, ⟨0x61, 0x66, 1⟩])
  | _ => Option.none

end CharSet

end ModelSchema
