import ModelSchema.Pattern.Portable
import ModelSchema.RichPattern.Reader
import ModelSchema.RichPattern.Search

/-!
# Patterns in schemas

The text of a schema pattern is made portable and then read as a rich pattern.  If nothing in it
is hard, it is an ordinary pattern; otherwise there is a plan to search for it.
-/

namespace ModelSchema

/-- A pattern in a schema. -/
inductive SchemaPattern where
  | plain (pattern : Pattern)
  | rich (plan : Plan)

namespace SchemaPattern

/-- The pattern that a text stands for, if it is one. -/
def ofText? (text : String) : Option SchemaPattern := do
  let found ← RichPattern.read? (← Pattern.portable? text)
  if (found.pattern.shape found.referenced).hard then
    return .rich (← found.pattern.plan? found.referenced true)
  else return .plain (← RichPattern.regular? [found.pattern])

/-- Whether a part of a text matches, unless the search is given up. -/
def search (pattern : SchemaPattern) (text : String) : Plan.Outcome :=
  match pattern with
  | plain pattern => if pattern.isMatch text then .found else .missing
  | rich plan => plan.search text

end SchemaPattern

end ModelSchema
