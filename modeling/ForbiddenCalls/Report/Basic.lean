import ForbiddenCalls.Report.Finding

/-!
# Reports

The result of a run: its findings in order, the files that failed in order, and
how many files were analyzed and skipped.  From it follow the counts by severity,
the one-line summary and whether the run fails at a given severity.
-/

namespace ForbiddenCalls

/-- The result of a run. -/
structure Report where
  findings : List Finding := []
  failures : List Failure := []
  analyzed : Nat := 0
  skipped : Nat := 0
  deriving DecidableEq, Repr, Inhabited

namespace Report

/-- The number of findings of a severity. -/
def count (r : Report) (s : Severity) : Nat :=
  (r.findings.filter fun f => f.severity == s).length

/-- Whether there is a finding of the highest severity. -/
def hasErrors (r : Report) : Bool :=
  r.findings.any fun f => f.severity == .error

/-- Whether there is a finding of a severity or a higher one. -/
def hasFindingsAt (r : Report) (s : Severity) : Bool :=
  r.findings.any fun f => decide (s ≤ f.severity)

/-- Whether the run was stopped before its last file. -/
def wasCancelled (r : Report) : Bool := decide (0 < r.skipped)

theorem wasCancelled_iff {r : Report} : r.wasCancelled = true ↔ 0 < r.skipped := by
  simp [wasCancelled]

/-- Adds failures from outside the run and keeps the order by file. -/
def recordFailures (r : Report) (fs : List Failure) : Report :=
  { r with failures := Failure.sorted (r.failures ++ fs) }

@[simp] theorem skipped_recordFailures (r : Report) (fs : List Failure) :
    (r.recordFailures fs).skipped = r.skipped := rfl

@[simp] theorem hasFindingsAt_recordFailures (r : Report) (fs : List Failure) (s : Severity) :
    (r.recordFailures fs).hasFindingsAt s = r.hasFindingsAt s := rfl

/-- The line that sums up a run. -/
def summary (r : Report) : String :=
  "Found " ++ toString (r.count .error) ++ " error(s), " ++
    toString (r.count .warning) ++ " warning(s), " ++
    toString (r.count .info) ++ " info(s) in " ++ toString r.analyzed ++ " file(s)" ++
    (if r.failures.isEmpty then ""
      else "; " ++ toString r.failures.length ++ " file(s) could not be analyzed") ++
    (if r.wasCancelled then
      "; cancelled with " ++ toString r.skipped ++ " file(s) skipped" else "")

end Report

end ForbiddenCalls
