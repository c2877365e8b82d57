import ForbiddenCalls.CallSite
import ForbiddenCalls.Severity

/-!
# Findings and failures

A finding is one call that a rule forbids.  A failure is one file that could not
be analyzed.  Both are values; the texts printed for them are given here, and so
is the order of findings: by file, line, column, offset and rule id.
-/

namespace ForbiddenCalls

/-- A forbidden call. -/
structure Finding where
  ruleId : String
  severity : Severity
  location : Location
  message : String
  deriving DecidableEq, Repr, Inhabited

/-- Where a location is, for people: file, line and column. -/
def Location.text (l : Location) : String :=
  l.file.text ++ ":" ++ toString l.line ++ ":" ++ toString l.column

namespace Finding

/-- The line that is printed for a finding. -/
def text (f : Finding) : String :=
  f.location.text ++ " [" ++ f.severity.name ++ "] " ++ f.ruleId ++ ": " ++ f.message

/-- The title of a finding in a graphical report. -/
def title (f : Finding) : String :=
  "[" ++ f.ruleId ++ "] " ++ f.message

/-- The order in which findings are listed. -/
def order : Finding → Finding → Ordering :=
  compareLex (compareOn fun f => f.location.file)
    (compareLex (compareOn fun f => f.location.line)
      (compareLex (compareOn fun f => f.location.column)
        (compareLex (compareOn fun f => f.location.offset)
          (compareOn fun f => f.ruleId))))

instance : Std.TransCmp order :=
  inferInstanceAs (Std.TransCmp (compareLex (compareOn fun f : Finding => f.location.file)
    (compareLex (compareOn fun f : Finding => f.location.line)
      (compareLex (compareOn fun f : Finding => f.location.column)
        (compareLex (compareOn fun f : Finding => f.location.offset)
          (compareOn fun f : Finding => f.ruleId))))))

/-- Findings with the same key are the same finding: rule and place. -/
structure Key where
  ruleId : String
  place : Place
  deriving DecidableEq, Repr, Hashable

/-- The key of a finding. -/
def key (f : Finding) : Key := ⟨f.ruleId, f.location.place⟩

end Finding

/-- A file that could not be analyzed. -/
structure Failure where
  file : FilePath
  location : Option Location
  message : String
  deriving DecidableEq, Repr, Inhabited

namespace Failure

/-- The line that is printed for a failure. -/
def text (f : Failure) : String :=
  match f.location with
  | some l =>
    f.file.text ++ ":" ++ toString l.line ++ ":" ++ toString l.column ++
      ": parse error: " ++ f.message
  | none => f.file.text ++ ": parse error: " ++ f.message

/-- Failures are listed by file. -/
def order : Failure → Failure → Ordering := compareOn Failure.file

instance : Std.TransCmp order := inferInstanceAs (Std.TransCmp (compareOn Failure.file))

/-- Failures in the order of their files; failures of one file keep theirs. -/
def sorted (fs : List Failure) : List Failure :=
  fs.mergeSort fun a b => (order a b).isLE

end Failure

end ForbiddenCalls
