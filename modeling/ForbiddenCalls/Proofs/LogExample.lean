import ForbiddenCalls.Proofs.Examination

/-!
# A small analyzer

One rule, about the method `d` of `android.util.Log`, and one adapter, which finds
one call of that method in every text that is not empty.  The instances of the
theorems about runs are about this analyzer, and those about several rules have a
second rule beside the first.
-/

namespace ForbiddenCalls

/-- A rule about the method `d` of `android.util.Log`. -/
def logRule : Rule where
  id := ⟨"NoLog", by decide, by decide⟩
  title := "NoLog"
  description := ""
  severity := .error
  owner := .exact "android.util.Log"
  methods := NameSet.empty.insert "d"
  requiresReceiver := true
  message := ⟨"NoLog", [.text "NoLog"]⟩

/-- Another rule about the same method, which does not matter as much. -/
def logHint : Rule := { logRule with id := ⟨"LogHint", by decide, by decide⟩, severity := .info }

/-- A call of `android.util.Log.d` at the start of a file, of a given length. -/
def logCall (file : FilePath) (length : Nat) : CallSite where
  receiver := some "Log"
  method := "d"
  owner := .resolved "android.util.Log"
  location := { file, line := 1, column := 1, offset := 0, length }

/-- Takes every text for one call, and refuses the empty text. -/
def logAdapter : Adapter where
  extensions := [".java"]
  traverse u text :=
    if text = "" then .error (.malformed 1 1 "empty") else .ok [logCall u.path text.length]

/-- The registry of the one rule. -/
def logRegistry : Registry := (Registry.empty.registerAll [logRule]).1

/-- The analyzer with the one rule and the one adapter. -/
def logAnalyzer : Analyzer := ⟨logRegistry, [logAdapter], 100⟩

/-- A unit with a call. -/
def logUnit (name : String) : SourceUnit := .ofText ⟨name⟩ "Log.d"

theorem activeRules_logAnalyzer : logAnalyzer.registry.activeRules = [logRule] := by
  simp [logAnalyzer, logRegistry, Registry.registerAll, Registry.register, Registry.empty,
    Registry.activeRules]

/-- The calls are found in the file of the unit. -/
theorem file_of_traverse_logAdapter {u : SourceUnit} {text : String} {calls : List CallSite}
    {c : CallSite} (h : logAdapter.traverse u text = .ok calls) (hc : c ∈ calls) :
    c.location.file = u.path := by
  simp only [logAdapter] at h
  split at h
  · exact nomatch h
  · rw [← Except.ok.inj h, List.mem_singleton] at hc
    rw [hc, logCall]

/-- A unit of the example is analyzed when its path has the extension. -/
theorem analyzed_logUnit {name : String} (h : (logUnit name).extension = ".java") :
    logAnalyzer.Analyzed (logUnit name) logAdapter [logCall ⟨name⟩ 5] where
  responsible := by simp [logAnalyzer, Adapter.handles, logAdapter, h]
  fits := ⟨"Log.d".utf8ByteSize, rfl, by decide⟩
  traversed := ⟨"Log.d", rfl, rfl⟩

/-- Its call is forbidden. -/
theorem forbids_logUnit {name : String} (h : (logUnit name).extension = ".java") :
    logAnalyzer.Forbids (logUnit name) (logCall ⟨name⟩ 5) logRule "android.util.Log" where
  found := ⟨logAdapter, _, analyzed_logUnit h, List.mem_cons_self, rfl⟩
  active := activeRules_logAnalyzer ▸ List.mem_cons_self
  method := by simp [logCall, logRule]
  receiver _ := rfl
  owner := by decide

end ForbiddenCalls
