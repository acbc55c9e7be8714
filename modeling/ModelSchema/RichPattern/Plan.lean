import ModelSchema.Pattern.Preference
import ModelSchema.RichPattern.Basic

/-!
# Plans of a search

A plan says how a rich pattern is searched for.  Parts that are not hard are left to plain patterns
where nothing after them could ask for another match than the preferred one; everything else is
tried step by step, and can be tried again in another way.

`RichPattern.plan?` makes the plan.  There is none for a look-behind of which the length is open,
or for a plain part that is too large.
-/

namespace ModelSchema

/-- How a part of a rich pattern is searched for. -/
inductive Plan where
  | nothing
  /-- The preferred match of a plain pattern. -/
  | preferred (pattern : Pattern)
  | sequence (first second : Plan)
  | choice (first second : Plan)
  | group (index : Nat) (body : Plan)
  /-- A repetition; if it is guarded, a round that matches nothing is not followed by another. -/
  | repeated (body : Plan) (least : Nat) (most : Option Nat) (greedy guarded : Bool)
  /-- A look from so many characters back. -/
  | look (back : Nat) (negative : Bool) (body : Plan)
  | backreference (index : Nat)
  | entered (index : Nat)
  | atomic (body : Plan)
  | searchStart
  | conditional (condition yes no : Plan)

namespace Plan

/-- Plans one after another. -/
def inSequence : List Plan → Plan
  | [] => nothing
  | [p] => p
  | p :: rest => sequence p (inSequence rest)

/-- Plans to choose from. -/
def inChoice : List Plan → Plan
  | [] => nothing
  | [p] => p
  | p :: rest => choice p (inChoice rest)

end Plan

namespace RichPattern

/-- The plan of items that are not hard: their preferred match.  No items need no plan. -/
def easyPlans? (items : List RichPattern) : Option (List Plan) :=
  if items.isEmpty then some [] else (regular? items).map fun pattern => [.preferred pattern]

/-- The plan of items one after another, of which `plans` are the plans.  Easy items of a fixed
length at the start are left to a plain pattern, and so are easy items at the end; there they must
have a fixed length if another match may be asked for. -/
def sequencePlan? (referenced : List Nat) (retried : Bool) (items : List RichPattern)
    (plans : List (Option Plan)) : Option Plan := do
  let isEasy (item : RichPattern) : Bool := !(item.shape referenced).hard
  let isFixed (item : RichPattern) : Bool := isEasy item && (item.shape referenced).fixed
  let start := items.takeWhile isFixed
  let others := items.drop start.length
  let finish := (others.reverse.takeWhile (if retried then isFixed else isEasy)).reverse
  let between := (plans.drop start.length).take (others.length - finish.length)
  return .inSequence ((← easyPlans? start) ++ (← between.mapM id) ++ (← easyPlans? finish))

/-- The plan to look behind for something that has a shape and a plan. -/
def lookBehind? (negative : Bool) (shape : Shape) (body : Option Plan) : Option Plan :=
  if shape.fixed then body.map (.look shape.least negative) else none

mutual

/-- The plan of a pattern.  A pattern is `retried` if other matches than the preferred one may be
asked for. -/
def plan? (referenced : List Nat) (retried : Bool) (pattern : RichPattern) : Option Plan :=
  if !retried ∧ !(pattern.shape referenced).hard then
    (regular? [pattern]).map .preferred
  else
    match pattern with
    | empty => some .nothing
    | chars set => some (.preferred (.chars set))
    | assertion condition => some (.preferred (.assertion condition))
    | sequence items => sequencePlan? referenced retried items (plans referenced true items)
    | choice branches => ((plans referenced retried branches).mapM id).map .inChoice
    | group index body => (plan? referenced retried body).map (.group index)
    | repeated body least most greedy =>
      let shape := body.shape referenced
      let isOptional := least = 0 ∧ most = some 1
      let guarded := most.isNone ∧ shape.least = 0
      (plan? referenced (retried || (!isOptional && shape.hard)) body).map fun plan =>
        .repeated plan least most greedy guarded
    | look ahead negative body =>
      let shape := body.shape referenced
      let plan := plan? referenced false body
      if ahead then plan.map (.look 0 negative)
      else if shape.fixed then lookBehind? negative shape plan
      else
        (looksBehind? referenced negative body).map
          (if negative then .inSequence else .inChoice)
    | backreference index => some (.backreference index)
    | entered index => some (.entered index)
    | atomic body => (plan? referenced false body).map .atomic
    | searchStart => some .searchStart
    | keepOut => some .nothing
    | conditional condition yes no => do
      return .conditional (← plan? referenced retried condition) (← plan? referenced retried yes)
        (← plan? referenced retried no)

/-- The plans of patterns. -/
def plans (referenced : List Nat) (retried : Bool) : List RichPattern → List (Option Plan)
  | [] => []
  | item :: rest => plan? referenced retried item :: plans referenced retried rest

/-- The plans to look behind for each branch of a choice. -/
def looksBehind? (referenced : List Nat) (negative : Bool) :
    RichPattern → Option (List Plan)
  | choice branches => (lookPlans referenced negative branches).mapM id
  | _ => none

/-- The plans to look behind for each of some patterns. -/
def lookPlans (referenced : List Nat) (negative : Bool) : List RichPattern → List (Option Plan)
  | [] => []
  | item :: rest =>
    lookBehind? negative (item.shape referenced) (plan? referenced false item) ::
      lookPlans referenced negative rest

end

end RichPattern

end ModelSchema
