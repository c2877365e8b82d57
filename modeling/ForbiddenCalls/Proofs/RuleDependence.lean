import ForbiddenCalls.Proofs.Registration
import ForbiddenCalls.Proofs.SequentialRun

/-!
# What a run owes to its rules

The rules of an analyzer are looked at when calls are compared with them and
nowhere else.  Which units are taken, which of them fail and which calls are found
is up to the adapters, the limit and the token; the rules decide what becomes of
the calls.  So the report of a run is, as a function of the list of rules, the
listing of `matchesAmong rules calls` for calls that do not depend on the rules, with
failures and counts that do not either.

* `matchesAmong`: a list of calls compared with a list of rules, and what it does when
  rules are left out or changed.
* `Analyzer.reports_eq`: the matches of a unit, split into its calls and the rules.
* `Analyzer.exists_analyzeWith_eq`: the report of a run as a function of the registry.
* `Analyzer.exists_reportFor_eq`: the same for the list of rules that an analyzer is
  built from.
-/

namespace ForbiddenCalls

/-! ## Calls and rules -/

/-- The matches of calls among rules, in the order of the calls and, for each call,
in the order of the rules. -/
def matchesAmong (rules : List Rule) (calls : List CallSite) : List (CallSite × Rule) :=
  calls.flatMap fun c => (rules.filter fun r => r.isMatch c).map fun r => (c, r)

/-- Leaving out rules leaves out their matches. -/
theorem matchesAmong_filter (p : Rule → Bool) (rules : List Rule) (calls : List CallSite) :
    matchesAmong (rules.filter p) calls = (matchesAmong rules calls).filter fun m => p m.2 := by
  rw [matchesAmong, matchesAmong, List.filter_flatMap]
  refine List.flatMap_congr fun c _ => ?_
  rw [List.filter_map, List.filter_comm]
  rfl

/-- Changing rules in what plays no part in matching changes the rules of the
matches. -/
theorem matchesAmong_map {g : Rule → Rule} (hg : ∀ r c, (g r).isMatch c = r.isMatch c)
    (rules : List Rule) (calls : List CallSite) :
    matchesAmong (rules.map g) calls =
      (matchesAmong rules calls).map fun m => (m.1, g m.2) := by
  rw [matchesAmong, matchesAmong, List.map_flatMap]
  refine List.flatMap_congr fun c _ => ?_
  have hmatch : ((fun r => r.isMatch c) ∘ g) = fun r => r.isMatch c := funext fun r => hg r c
  rw [List.filter_map, hmatch, List.map_map, List.map_map]
  rfl

namespace Analyzer

variable {a b : Analyzer} {u : SourceUnit} {interrupt : Interrupt} {s t : RunState}

theorem matchesOf_eq (a : Analyzer) (calls : List CallSite) :
    a.matchesOf calls = matchesAmong a.registry.activeRules calls := by
  refine List.flatMap_congr fun c _ => congrArg _ ?_
  rw [matchingRules, Registry.candidates_eq, List.filter_filter]
  refine List.filter_congr fun r _ => ?_
  cases hmatch : r.isMatch c with
  | true => simpa using (Rule.isMatch_iff.1 hmatch).2.1
  | false => rfl

/-- The calls of a unit with their owners; there are none if the unit fails. -/
def callsOf (a : Analyzer) (u : SourceUnit) : List CallSite :=
  match (a.examine u).outcome with
  | .error _ => []
  | .ok calls => calls

/-- **The matches of a unit** are those of its calls among the active rules. -/
theorem reports_eq (a : Analyzer) (u : SourceUnit) :
    a.reports u = matchesAmong a.registry.activeRules (a.callsOf u) := by
  rw [reports, callsOf]
  cases (a.examine u).outcome with
  | error f => rfl
  | ok calls => exact a.matchesOf_eq calls

theorem flatMap_reports_eq (a : Analyzer) (units : List SourceUnit) :
    units.flatMap a.reports = matchesAmong a.registry.activeRules (units.flatMap a.callsOf) := by
  rw [matchesAmong, List.flatMap_assoc]
  exact List.flatMap_congr fun u _ => a.reports_eq u

/-! ## Analyzers that differ in their rules -/

/-- The analyzers have the same adapters and the same limit. -/
structure SameReading (a b : Analyzer) : Prop where
  adapters_eq : a.adapters = b.adapters
  limit_eq : a.maxFileBytes = b.maxFileBytes

theorem SameReading.examine_eq (h : a.SameReading b) (u : SourceUnit) :
    a.examine u = b.examine u := by
  simp only [examine, adapterFor?, h.adapters_eq, h.limit_eq]

theorem SameReading.callsOf_eq (h : a.SameReading b) : a.callsOf = b.callsOf :=
  funext fun u => by rw [callsOf, callsOf, h.examine_eq]

theorem SameReading.failure?_eq (h : a.SameReading b) : a.failure? = b.failure? :=
  funext fun u => by rw [failure?, failure?, h.examine_eq]

/-- The part of the state of a run that says how the run goes on. -/
def RunState.course (s : RunState) : Bool × List Nat × Nat :=
  ⟨s.cancelled, s.traversals, s.skipped⟩

/-- The failure or the matches of a unit do not change the course. -/
theorem course_step (h : s.cancelled = false) :
    (a.step interrupt s u).course =
      (s.afterTraversal interrupt (a.examine u).traversal).course := by
  rw [step, if_neg (Bool.not_eq_true _ ▸ h)]
  dsimp only
  cases (a.examine u).outcome with
  | error f => rfl
  | ok calls => rfl

/-- **A step of either analyzer** leads states with one course to states with one
course. -/
theorem SameReading.course_step_eq (h : a.SameReading b) (hst : s.course = t.course) :
    (a.step interrupt s u).course = (b.step interrupt t u).course := by
  obtain ⟨hcancelled, hrest⟩ := Prod.mk.inj hst
  obtain ⟨htraversals, hskipped⟩ := Prod.mk.inj hrest
  cases ht : t.cancelled with
  | true =>
    rw [step, step, if_pos (hcancelled.trans ht), if_pos ht]
    simp only [RunState.course, hcancelled, htraversals, hskipped]
  | false =>
    rw [course_step (hcancelled.trans ht), course_step ht, h.examine_eq]
    cases (b.examine u).traversal with
    | none => exact hst
    | some position =>
      simp only [RunState.afterTraversal, RunState.course, hcancelled, htraversals, hskipped]

/-- **Runs of either analyzer** take the same course. -/
theorem SameReading.course_foldl (h : a.SameReading b) (hst : s.course = t.course)
    (units : List SourceUnit) :
    (units.foldl (a.step interrupt) s).course = (units.foldl (b.step interrupt) t).course := by
  induction units generalizing s t with
  | nil => exact hst
  | cons u units ih => exact ih (h.course_step_eq hst)

/-- The number of units that a run takes. -/
def dispatched (a : Analyzer) (units : List SourceUnit) (cancelled : Bool)
    (interrupt : Interrupt) : Nat :=
  units.length - (units.foldl (a.step interrupt) { cancelled }).skipped

theorem SameReading.dispatched_eq (h : a.SameReading b) (units : List SourceUnit)
    (cancelled : Bool) (interrupt : Interrupt) :
    a.dispatched units cancelled interrupt = b.dispatched units cancelled interrupt := by
  have hcourse : (units.foldl (a.step interrupt) { cancelled }).course =
      (units.foldl (b.step interrupt) { cancelled }).course := h.course_foldl rfl units
  exact congrArg (fun course => units.length - course.2.2) hcourse

/-- The report of a run, given the number of units that it takes. -/
theorem analyzeWith_eq_dispatched (a : Analyzer) (units : List SourceUnit) (cancelled : Bool)
    (interrupt : Interrupt) :
    a.analyzeWith units cancelled interrupt =
      let taken := units.take (a.dispatched units cancelled interrupt)
      a.reportOn taken (units.length - taken.length) (taken.flatMap a.reports) := by
  obtain ⟨k, hk, htook⟩ := a.exists_took_foldl interrupt { cancelled } units
  have hskipped := htook.skipped_eq.trans (Nat.zero_add _)
  have hdispatched : a.dispatched units cancelled interrupt = k := by
    rw [dispatched, hskipped]
    omega
  rw [hdispatched, analyzeWith, htook.report_eq]
  dsimp only
  rw [List.length_take, Nat.min_eq_left hk]

/-- **The report of a run as a function of the registry.** -/
theorem exists_analyzeWith_eq (adapters : List Adapter) (limit : Nat) (units : List SourceUnit)
    (cancelled : Bool) (interrupt : Interrupt) :
    ∃ (calls : List CallSite) (failures : List Failure) (analyzed skipped : Nat),
      ∀ registry, (⟨registry, adapters, limit⟩ : Analyzer).analyzeWith units cancelled interrupt =
        ⟨Finding.listing (findingsOf (matchesAmong registry.activeRules calls)), failures, analyzed,
          skipped⟩ := by
  -- what does not depend on the registry is read off the analyzer without rules
  let a : Analyzer := ⟨.empty, adapters, limit⟩
  let taken := units.take (a.dispatched units cancelled interrupt)
  refine ⟨taken.flatMap a.callsOf, Failure.sorted (taken.filterMap a.failure?),
    taken.countP fun u => (a.failure? u).isNone, units.length - taken.length, fun registry => ?_⟩
  have h : SameReading ⟨registry, adapters, limit⟩ a := ⟨rfl, rfl⟩
  rw [analyzeWith_eq_dispatched, h.dispatched_eq, reportOn, flatMap_reports_eq, h.callsOf_eq,
    h.failure?_eq]

/-! ## Runs with a list of rules -/

/-- The report of an analyzer that is built from a list of rules. -/
def reportFor (rules : List Rule) (adapters : List Adapter) (limit : Nat)
    (units : List SourceUnit) (cancelled : Bool) (interrupt : Interrupt) :
    Except StartupError Report :=
  (build .empty rules adapters limit).map fun a => a.analyzeWith units cancelled interrupt

/-- There is a report for rules with pairwise different ids and at least one adapter. -/
theorem exists_reportFor_eq_ok {rules : List Rule} (hids : (rules.map Rule.id).Nodup)
    {adapters : List Adapter} (hadapters : adapters ≠ []) (limit : Nat)
    (units : List SourceUnit) (cancelled : Bool) (interrupt : Interrupt) :
    ∃ r, reportFor rules adapters limit units cancelled interrupt = .ok r := by
  obtain ⟨registry, -, hbuild⟩ := exists_build_eq_ok hids hadapters limit
  exact ⟨_, by rw [reportFor, hbuild]; rfl⟩

/-- **The report of a run as a function of the rules.** -/
theorem exists_reportFor_eq (adapters : List Adapter) (limit : Nat) (units : List SourceUnit)
    (cancelled : Bool) (interrupt : Interrupt) :
    ∃ (calls : List CallSite) (failures : List Failure) (analyzed skipped : Nat),
      ∀ rules : List Rule, (rules.map Rule.id).Nodup →
        reportFor rules adapters limit units cancelled interrupt =
          if adapters.isEmpty then .error .noAdapter
          else .ok ⟨Finding.listing (findingsOf (matchesAmong rules calls)), failures, analyzed,
            skipped⟩ := by
  obtain ⟨calls, failures, analyzed, skipped, h⟩ :=
    exists_analyzeWith_eq adapters limit units cancelled interrupt
  refine ⟨calls, failures, analyzed, skipped, fun rules hids => ?_⟩
  obtain ⟨registry, hactive, hbuild⟩ := exists_build_eq hids adapters limit
  rw [reportFor, hbuild]
  cases adapters.isEmpty with
  | true => rfl
  | false =>
    rw [if_neg Bool.false_ne_true, if_neg Bool.false_ne_true, Except.map, h registry, hactive]

end Analyzer

end ForbiddenCalls
