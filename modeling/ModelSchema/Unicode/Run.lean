/-!
# Runs of code points

A set of characters is written as a list of runs: from a first to a last code point in equal
steps.
-/

namespace ModelSchema

namespace Unicode

/-- The code points from `first` to `last` in steps of `step`. -/
structure Run where
  first : Nat
  last : Nat
  step : Nat

/-- Whether a code point lies on the run. -/
def Run.contains (r : Run) (n : Nat) : Bool :=
  r.first ≤ n && n ≤ r.last && (n - r.first) % r.step == 0

/-- Whether a code point lies on one of the runs. -/
def onRun (runs : List Run) (n : Nat) : Bool := runs.any (·.contains n)

end Unicode

end ModelSchema
