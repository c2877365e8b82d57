import ForbiddenCalls.Pattern.Ignore

/-!
# How deeply an ignore pattern is nested

A pattern stands for an expression that is built of single bytes, sets of bytes,
sequences, alternatives, repetitions and groups.  The nesting of a pattern is the
nesting of that expression, in which a single byte counts nothing and every other
operation one.  A pair of braces is a group; it adds an operation for its
alternatives if there are several, and one for every branch that is a sequence.

A pattern may be nested up to `maxNesting`.
-/

namespace ForbiddenCalls.Pattern

namespace IgnoreToken

/-- The number of parts of a sequence that a part of a pattern stands for. -/
def parts : IgnoreToken → Nat
  | literal bytes => bytes.length
  | trailingComponents => 2
  | choice branches => if branchesVacuous branches then 0 else 1
  | _ => 1

/-- The number of parts of a sequence that several parts of a pattern stand for. -/
def partCount : List IgnoreToken → Nat
  | [] => 0
  | t :: ts => t.parts + partCount ts

mutual

/-- The nesting of a part of a pattern. -/
def nesting : IgnoreToken → Nat
  | literal _ => 0
  | anyByte => 1
  | run => 2
  | leadingComponents | innerComponents => 4
  | trailingComponents => 1
  | oneOf _ ranges => if ranges.length ≤ 1 then 1 else 2
  | choice branches =>
    if branchesVacuous branches then 0
    else
      let several := 1 < (branches.filter fun b => !partsVacuous b).length
      branchesNesting branches + (if several then 2 else 1)

/-- The largest nesting of several parts. -/
def partsNesting : List IgnoreToken → Nat
  | [] => 0
  | t :: ts => max t.nesting (partsNesting ts)

/-- The largest nesting of several branches. -/
def branchesNesting : List (List IgnoreToken) → Nat
  | [] => 0
  | b :: bs =>
    let sequence := if partCount b ≤ 1 then 0 else 1
    max (partsNesting b + sequence) (branchesNesting bs)

end

end IgnoreToken

namespace IgnorePattern

/-- The largest nesting of a pattern that can be used. -/
def maxNesting : Nat := 250

/-- The nesting of a pattern, which is a sequence as a whole. -/
def nesting (p : IgnorePattern) : Nat := IgnoreToken.partsNesting p + 1

end IgnorePattern

end ForbiddenCalls.Pattern
