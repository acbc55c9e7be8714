import ModelSchema.Pattern.Basic
import Std.Data.HashSet

/-!
# The preferred match

From a given position a pattern may match in several ways.  Earlier branches of a choice are
preferred to later ones, and a greedy repetition prefers another round to none.
`Pattern.ends` lists the positions where matches end, the preferred one first and each once.

A repetition is explored depth first.  Its body is a row of copies, one for each round, of which
the last stands for all further rounds if their number has no limit.  No copy is entered twice at
the same position, and the place after a copy is not passed twice either: whatever could be found
from there is found already, or is about to be.
-/

namespace ModelSchema

namespace Pattern

/-- How a body is repeated. -/
structure Loop where
  least : Nat
  most : Option Nat
  greedy : Bool

namespace Loop

/-- The first copy of the body, if there is one. -/
def firstCopy? (l : Loop) : Option Nat := if l.most = some 0 then none else some 0

/-- The copy to enter for another round after a copy. -/
def copyAfter? (l : Loop) (copy : Nat) : Option Nat :=
  match l.most with
  | some most => if copy + 1 < most then some (copy + 1) else none
  | none => some (if copy + 1 < l.least then copy + 1 else copy)

/-- Whether the loop may be left after a copy. -/
def mayLeaveAfter (l : Loop) (copy : Nat) : Bool := l.least ≤ copy + 1

end Loop

/-- What is left to explore. -/
inductive LoopTask where
  /-- A copy of the body at a position. -/
  | enter (copy position : Nat)
  /-- The place after a copy. -/
  | pass (copy position : Nat)
  | leave (position : Nat)
deriving DecidableEq, Hashable

/-- What was explored: the tasks done and the ends found, the last one first. -/
structure Explored where
  done : Std.HashSet LoopTask
  ends : List Nat

/-- The tasks that follow one. -/
def LoopTask.next (l : Loop) (step : Nat → List Nat) : LoopTask → List LoopTask
  | enter copy p => (step p).map (.pass copy)
  | pass copy p =>
    let again := ((l.copyAfter? copy).map (.enter · p)).toList
    if l.mayLeaveAfter copy then
      if l.greedy then again ++ [.leave p] else .leave p :: again
    else again
  | leave _ => []

/-- Works off tasks in order, each once. -/
def explore (l : Loop) (step : Nat → List Nat) : Nat → List LoopTask → Explored → Explored
  | 0, _, found => found
  | _ + 1, [], found => found
  | fuel + 1, task :: rest, found =>
    if found.done.contains task then explore l step fuel rest found
    else
      let ends :=
        match task with
        | .leave p => p :: found.ends
        | _ => found.ends
      explore l step fuel (task.next l step ++ rest) ⟨found.done.insert task, ends⟩

/-- The ends of a repetition that starts at a position.  With `size` characters there are no more
than so many different tasks, each of which is put off by every task once. -/
def loopEnds (l : Loop) (step : Nat → List Nat) (size position : Nat) : List Nat :=
  let again := ((l.firstCopy?).map (.enter · position)).toList
  let start :=
    if l.least = 0 then
      if l.greedy then again ++ [.leave position] else .leave position :: again
    else again
  let copies := (l.most.getD l.least) + 1
  let tasks := (2 * copies + 1) * (size + 1)
  (explore l step (tasks * (size + 3) + 2) start ⟨∅, []⟩).ends.reverse

/-- The positions where matches end that start at a position, the preferred one first. -/
def ends (text : Array Char) : Pattern → Nat → List Nat
  | empty, p => [p]
  | chars set, p => if (text[p]?).any fun c => set.contains c.toNat then [p + 1] else []
  | assertion condition, p => if condition.holdsAt text p then [p] else []
  | sequence first second, p => ((ends text first p).flatMap (ends text second)).eraseDups
  | choice first second, p => (ends text first p ++ ends text second p).eraseDups
  | repeated body least most greedy, p =>
    let cap := text.size + 1
    let least' := min least cap
    let most' := most.map fun m => min (m - least) cap + least'
    loopEnds ⟨least', most', greedy⟩ (ends text body) text.size p
  | capture body, p => ends text body p

/-- The end of the preferred match that starts at a position. -/
def preferred? (text : Array Char) (pattern : Pattern) (position : Nat) : Option Nat :=
  (ends text pattern position).head?

end Pattern

end ModelSchema
