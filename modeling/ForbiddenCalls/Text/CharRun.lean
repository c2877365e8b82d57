/-!
# Runs of code points

A class of characters is given here as a list of *runs*: the code points from a
first to a last one in equal steps.  A step of two writes the stretches in which
upper and lower case letters alternate as one run.
-/

namespace ForbiddenCalls.Text

/-- The code points `first`, `first + step`, … up to `last`. -/
structure CharRun where
  first : Nat
  last : Nat
  step : Nat
  deriving DecidableEq, Repr

/-- Whether a code point lies in the run. -/
def CharRun.contains (r : CharRun) (n : Nat) : Bool :=
  r.first ≤ n && n ≤ r.last && (n - r.first) % r.step == 0

/-- Whether a code point lies in one of the runs. -/
def inRuns (rs : List CharRun) (n : Nat) : Bool :=
  rs.any (·.contains n)

end ForbiddenCalls.Text
