import Std.Data.HashSet
import ForbiddenCalls.Matching
import ForbiddenCalls.Report.Finding

/-!
# The log of findings

During a run, every match is reported to a log.  The log keeps one finding for
each rule and place, the first one that was reported, together with the set of
keys it has seen.  At the end the findings are listed in their order, whatever
the order of the reports was.

The type keeps the two parts of a log together: the set holds exactly the keys of
the findings (`mem_seen`), and no two findings have one key (`nodup_keys`).  What
recording does is said on the list of findings (`toList_record`).
-/

namespace ForbiddenCalls

/-- The finding that a match stands for. -/
def Rule.finding (r : Rule) (c : CallSite) : Finding :=
  ⟨r.id.text, r.severity, c.location, r.messageFor c⟩

/-- The findings of a run so far. -/
structure FindingLog where
  seen : Std.HashSet Finding.Key := ∅
  findings : Array Finding := #[]
  mem_seen : ∀ key, key ∈ seen ↔ key ∈ findings.toList.map Finding.key := by simp
  nodup_keys : (findings.toList.map Finding.key).Nodup := by simp

namespace FindingLog

/-- The log in which nothing was reported. -/
def empty : FindingLog := {}

instance : Inhabited FindingLog := ⟨empty⟩

/-- The findings in the order of their reports. -/
def toList (log : FindingLog) : List Finding := log.findings.toList

/-- Records a finding unless its key was seen before, and says whether it did. -/
def record (log : FindingLog) (f : Finding) : Bool × FindingLog :=
  if h : f.key ∈ log.seen then (false, log)
  else
    (true, {
      seen := log.seen.insert f.key
      findings := log.findings.push f
      mem_seen := fun key => by
        rw [Std.HashSet.mem_insert, log.mem_seen, Array.toList_push, List.map_append,
          List.mem_append, List.map_singleton, List.mem_singleton, beq_iff_eq, or_comm,
          eq_comm (a := key)]
      nodup_keys := by
        rw [log.mem_seen] at h
        rw [Array.toList_push, List.map_append, List.nodup_append]
        refine ⟨log.nodup_keys, by simp, ?_⟩
        rintro _ hkey _ hf rfl
        rw [List.map_singleton, List.mem_singleton] at hf
        exact h (hf ▸ hkey) })

/-- Reports that a call matches a rule. -/
def report (log : FindingLog) (c : CallSite) (r : Rule) : Bool × FindingLog :=
  log.record (r.finding c)

/-- Reports matches one after the other. -/
def reportAll (log : FindingLog) (ms : List (CallSite × Rule)) : FindingLog :=
  ms.foldl (fun log m => (log.report m.1 m.2).2) log

/-- The number of findings. -/
def size (log : FindingLog) : Nat := log.findings.size

/-- Whether nothing was recorded. -/
def isEmpty (log : FindingLog) : Bool := log.size == 0

/-- The findings in their order. -/
def results (log : FindingLog) : List Finding :=
  log.findings.toList.mergeSort fun a b => (Finding.order a b).isLE

/-! ## The list of a log -/

@[simp] theorem toList_empty : empty.toList = [] := rfl

theorem length_toList (log : FindingLog) : log.toList.length = log.size := by
  simp [toList, size]

/-- A finding is recorded when no finding with its key was. -/
theorem fst_record (log : FindingLog) (f : Finding) :
    (log.record f).1 = decide (f.key ∉ log.toList.map Finding.key) := by
  unfold record
  split <;> next h =>
    rw [log.mem_seen] at h
    simpa [toList] using h

/-- A recorded finding is the last one; a refused one changes nothing. -/
theorem toList_record (log : FindingLog) (f : Finding) :
    (log.record f).2.toList =
      if f.key ∈ log.toList.map Finding.key then log.toList else log.toList ++ [f] := by
  unfold record
  split <;> next h =>
    rw [log.mem_seen] at h
    simp [toList, h]

@[simp] theorem reportAll_nil (log : FindingLog) : log.reportAll [] = log := rfl

theorem reportAll_cons (log : FindingLog) (m : CallSite × Rule) (ms : List (CallSite × Rule)) :
    log.reportAll (m :: ms) = (log.report m.1 m.2).2.reportAll ms := rfl

theorem reportAll_append (log : FindingLog) (ms ns : List (CallSite × Rule)) :
    log.reportAll (ms ++ ns) = (log.reportAll ms).reportAll ns :=
  List.foldl_append

end FindingLog

end ForbiddenCalls
