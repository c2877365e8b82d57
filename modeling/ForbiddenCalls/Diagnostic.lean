/-!
# Diagnostics

Every error of the checker is an inductive type of causes.  For printing, a cause
is turned into a diagnostic: its message, and where it has them a stable code and
a line of help.
-/

namespace ForbiddenCalls

/-- The printed form of an error. -/
structure Diagnostic where
  message : String
  code : Option String := none
  help : Option String := none
  deriving DecidableEq, Repr, Inhabited

end ForbiddenCalls
