import ModelSchema.RichPattern.Plan

/-!
# Searching for rich patterns

A search follows one thread at a time.  Where a plan leaves a choice, the thread goes on with the
preferred way and the other way is put on a stack; when the thread fails, the way put there last is
taken up.  `Plan.search` gives up when ways were taken up too often.

A group keeps the position where it was entered last and the position where it was left last.
-/

namespace ModelSchema

namespace Plan

/-- What a thread has still to do. -/
inductive Task where
  | follow (plan : Plan)
  /-- The group is left here. -/
  | leave (index : Nat)
  /-- The head of a repetition after some rounds, and where the last optional one started. -/
  | head (body : Plan) (least : Nat) (most : Option Nat) (greedy guarded : Bool) (rounds : Nat)
      (started : Option Nat)
  /-- Goes back to a position. -/
  | moveTo (position : Nat)
  /-- Drops the ways put on the stack since the last mark. -/
  | cut
  /-- Drops the ways above a height and fails. -/
  | refuse (height : Nat)

/-- A thread of a search. -/
structure Thread where
  position : Nat
  tasks : List Task
  entered : List (Nat × Nat)
  left : List (Nat × Nat)
  /-- Heights of the stack that were marked. -/
  marks : List Nat

/-- The pairs with a new value for a key. -/
def record (pairs : List (Nat × Nat)) (key value : Nat) : List (Nat × Nat) :=
  (key, value) :: pairs.filter (·.1 ≠ key)

namespace Thread

/-- The thread with something to do first. -/
def before (t : Thread) (tasks : List Task) : Thread := { t with tasks := tasks ++ t.tasks }

/-- The text that a group holds; it must have been left after it was entered. -/
def held? (t : Thread) (text : Array Char) (index : Nat) : Option (Array Char) := do
  let first ← t.entered.lookup index
  let last ← t.left.lookup index
  if first ≤ last then some (text.extract first last) else none

end Thread

/-- A thread that goes on, if it does not fail, and the stack of other ways. -/
abbrev Step := Option Thread × Array Thread

/-- One step at the head of a repetition.  A guarded repetition fails when a round matched
nothing. -/
def loopStep (t : Thread) (stack : Array Thread) (body : Plan) (least : Nat) (most : Option Nat)
    (greedy guarded : Bool) (rounds : Nat) (started : Option Nat) : Step :=
  if guarded ∧ 0 < rounds ∧ started = some t.position then (none, stack)
  else if most = some rounds then (some t, stack)
  else
    let isOptional : Bool := least ≤ rounds
    let started := if isOptional then some t.position else started
    let again := t.before
      [.follow body, .head body least most greedy guarded (rounds + 1) started]
    if !isOptional then (some again, stack)
    else if greedy then (some again, stack.push t)
    else (some t, stack.push again)

/-- One step of a thread that follows a plan. -/
def followStep (text : Array Char) (t : Thread) (stack : Array Thread) : Plan → Step
  | nothing => (some t, stack)
  | preferred pattern =>
    ((Pattern.preferred? text pattern t.position).map fun p => { t with position := p }, stack)
  | sequence first second => (some (t.before [.follow first, .follow second]), stack)
  | choice first second =>
    (some (t.before [.follow first]), stack.push (t.before [.follow second]))
  | group index body =>
    let t := { t with entered := record t.entered index t.position }
    (some (t.before [.follow body, .leave index]), stack)
  | repeated body least most greedy guarded =>
    loopStep t stack body least most greedy guarded 0 none
  | look back false body =>
    if t.position < back then (none, stack)
    else
      let inner := t.before [.follow body, .moveTo t.position]
      (some { inner with position := t.position - back }, stack)
  | look back true body =>
    let inner := t.before [.follow body, .refuse stack.size]
    let inner := if t.position < back then none
      else some { inner with position := t.position - back }
    (inner, stack.push t)
  | backreference index =>
    match t.held? text index with
    | some held =>
      let after := t.position + held.size
      if text.extract t.position after == held then (some { t with position := after }, stack)
      else (none, stack)
    | none => (none, stack)
  | entered index => (if (t.entered.lookup index).isSome then some t else none, stack)
  | atomic body =>
    let t := t.before [.follow body, .cut]
    (some { t with marks := stack.size :: t.marks }, stack)
  | searchStart => (if t.position = 0 then some t else none, stack)
  | conditional condition yes no =>
    let t := { t with marks := stack.size :: t.marks }
    (some (t.before [.follow condition, .cut, .follow yes]), stack.push (t.before [.follow no]))

/-- One step of a thread with a task. -/
def step (text : Array Char) (t : Thread) (stack : Array Thread) : Task → Step
  | .follow plan => followStep text t stack plan
  | .leave index => (some { t with left := record t.left index t.position }, stack)
  | .head body least most greedy guarded rounds started =>
    loopStep t stack body least most greedy guarded rounds started
  | .moveTo position => (some { t with position }, stack)
  | .cut =>
    match t.marks with
    | height :: marks => (some { t with marks }, stack.shrink height)
    | [] => (some t, stack)
  | .refuse height => (none, stack.shrink height)

/-- How a search ends. -/
inductive Outcome where
  | found
  | missing
  /-- Ways were taken up too often. -/
  | exhausted
deriving DecidableEq

/-- Runs a thread until it has nothing left to do, or no way is left, or ways were taken up more
often than they may. -/
def run (text : Array Char) : Nat → Nat → Thread → Array Thread → Outcome
  | 0, _, _, _ => .exhausted
  | fuel + 1, takeUps, t, stack =>
    match t.tasks with
    | [] => .found
    | task :: tasks =>
      match step text { t with tasks } stack task with
      | (some t, stack) => run text fuel takeUps t stack
      | (none, stack) =>
        match stack.back?, takeUps with
        | none, _ => .missing
        | some _, 0 => .exhausted
        | some t, takeUps + 1 => run text fuel takeUps t stack.pop

/-- How often ways may be taken up. -/
def takeUpLimit : Nat := 1000000

/-- More steps than any search makes. -/
def stepLimit : Nat := 1 <<< 62

/-- Searches for a plan anywhere in a text: as far to the left as possible. -/
def search (plan : Plan) (text : String) : Outcome :=
  let anything := Plan.preferred (.chars (.complement .none))
  let tasks := [Task.follow (.repeated anything 0 none false false), .follow plan]
  run text.toList.toArray stepLimit takeUpLimit ⟨0, tasks, [], [], []⟩ #[]

end Plan

end ModelSchema
