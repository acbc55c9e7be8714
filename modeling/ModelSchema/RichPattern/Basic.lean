import ModelSchema.Pattern.Size

/-!
# Patterns beyond regular ones

A rich pattern may look ahead and behind, refer back to what a group holds, keep the first match
of a part for good, and decide between two parts.  It is read by `RichPattern.read?` and searched
for by `RichPattern.search`.

`RichPattern.shape` says how long the matches of a pattern are and whether it is *hard*, that is,
goes beyond what a `Pattern` can say.
-/

namespace ModelSchema

/-- A pattern that may look around, refer back and decide. -/
inductive RichPattern where
  | empty
  | chars (set : CharSet)
  | assertion (condition : Assertion)
  | sequence (items : List RichPattern)
  | choice (branches : List RichPattern)
  | group (index : Nat) (body : RichPattern)
  | repeated (body : RichPattern) (least : Nat) (most : Option Nat) (greedy : Bool)
  /-- A condition that a match starts, or ends, at the position. -/
  | look (ahead negative : Bool) (body : RichPattern)
  /-- The text that a group holds. -/
  | backreference (index : Nat)
  /-- A condition that a group was entered. -/
  | entered (index : Nat)
  /-- The preferred match only. -/
  | atomic (body : RichPattern)
  /-- A condition that the search starts at the position. -/
  | searchStart
  /-- Leaves what was matched so far out of the match, which makes no difference to whether there
  is one. -/
  | keepOut
  | conditional (condition yes no : RichPattern)

namespace RichPattern

/-- Whether a pattern is the empty one. -/
def isEmpty : RichPattern → Bool
  | empty => true
  | _ => false

/-! ## Shapes -/

/-- The least length of matches, whether all have that length, and whether a pattern is hard. -/
structure Shape where
  least : Nat
  fixed : Bool
  hard : Bool
deriving DecidableEq

namespace Shape

/-- The shape of one pattern after another. -/
def append (a b : Shape) : Shape := ⟨a.least + b.least, a.fixed && b.fixed, a.hard || b.hard⟩

/-- The shape of a choice. -/
def orElse (a b : Shape) : Shape :=
  ⟨min a.least b.least, a.fixed && b.fixed && a.least == b.least, a.hard || b.hard⟩

end Shape

/-- Conditions at edges of words count as hard. -/
def isHardAssertion : Assertion → Bool
  | .word _ _ => true
  | _ => false

mutual

/-- The shape of a pattern in which some groups are referred to. -/
def shape (referenced : List Nat) : RichPattern → Shape
  | empty => ⟨0, true, false⟩
  | chars _ => ⟨1, true, false⟩
  | assertion condition => ⟨0, true, isHardAssertion condition⟩
  | sequence items => sequenceShape referenced items
  | choice [] => ⟨0, true, false⟩
  | choice (first :: rest) => choiceShape referenced (shape referenced first) rest
  | group index body =>
    let s := shape referenced body
    { s with hard := s.hard || referenced.contains index }
  | repeated body least most _ =>
    let s := shape referenced body
    ⟨s.least * least, s.fixed && most == some least, s.hard⟩
  | look _ _ _ => ⟨0, true, true⟩
  | backreference _ => ⟨0, false, true⟩
  | entered _ => ⟨0, true, true⟩
  | atomic body => { shape referenced body with hard := true }
  | searchStart => ⟨0, true, true⟩
  | keepOut => ⟨0, true, true⟩
  | conditional condition yes no =>
    { ((shape referenced condition).append (shape referenced yes)).orElse
        (shape referenced no) with
      least := (shape referenced condition).least +
        min (shape referenced yes).least (shape referenced no).least
      hard := true }

/-- The shape of patterns one after another. -/
def sequenceShape (referenced : List Nat) : List RichPattern → Shape
  | [] => ⟨0, true, false⟩
  | item :: rest => (shape referenced item).append (sequenceShape referenced rest)

/-- The shape of a choice between something of a given shape and further branches. -/
def choiceShape (referenced : List Nat) : Shape → List RichPattern → Shape
  | before, [] => before
  | before, branch :: rest =>
    choiceShape referenced (before.orElse (shape referenced branch)) rest

end

/-! ## Patterns that are not hard -/

mutual

/-- A pattern that is not hard as a regular one, if its counts are in order. -/
def toPattern? : RichPattern → Option Pattern
  | empty => some .empty
  | chars set => some (.chars set)
  | assertion condition => some (.assertion condition)
  | sequence items => (toPatterns? items).map .inSequence
  | choice branches => (toPatterns? branches).map .inChoice
  | group _ body => (toPattern? body).map .capture
  | repeated body least most greedy => do
    guard (least < 1 <<< 32 ∧ most.all fun m => least ≤ m ∧ m < 1 <<< 32)
    return .repeated (← toPattern? body) least most greedy
  | _ => none

/-- Patterns that are not hard as regular ones. -/
def toPatterns? : List RichPattern → Option (List Pattern)
  | [] => some []
  | item :: rest => do return (← toPattern? item) :: (← toPatterns? rest)

end

/-- Patterns one after another as a regular one that is small enough. -/
def regular? (items : List RichPattern) : Option Pattern := do
  let pattern := Pattern.inSequence (← toPatterns? items)
  guard pattern.isSmall
  return pattern

end RichPattern

end ModelSchema
