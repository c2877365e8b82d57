import ForbiddenCalls.Proofs.Schedules

/-!
# One worker

`Analyzer.analyzeWith` takes the units one after the other.  It is a run of a pool
in which every unit that is taken is finished before the next one: some first units
are taken, the others are skipped, and the matches arrive in the order of the units.

* `Took`: what taking some units and skipping others adds to the state of a run.
  A step adds one unit (`took_step`, `took_skip`), and steps add up (`Took.trans`).
* `analyzeWith_eq`, `analyze_eq`: the report of such a run.
* `exists_finishes_analyzeWith`, `yields_analyze`: it is the report of a pool.
-/

namespace ForbiddenCalls

namespace Analyzer

variable {a : Analyzer} {interrupt : Interrupt} {s s' s'' : RunState} {u : SourceUnit}
  {taken taken' units : List SourceUnit} {skipped skipped' : Nat}

/-- From one state of a run to another, these units were taken and as many skipped. -/
structure Took (a : Analyzer) (s : RunState) (taken : List SourceUnit) (skipped : Nat)
    (s' : RunState) : Prop where
  log_eq : s'.log = s.log.reportAll (taken.flatMap a.reports)
  failures_eq : s'.failures.toList = s.failures.toList ++ taken.filterMap a.failure?
  analyzed_eq : s'.analyzed = s.analyzed + taken.countP fun u => (a.failure? u).isNone
  skipped_eq : s'.skipped = s.skipped + skipped

/-! ## Steps -/

theorem Took.refl (a : Analyzer) (s : RunState) : a.Took s [] 0 s where
  log_eq := rfl
  failures_eq := (List.append_nil _).symm
  analyzed_eq := rfl
  skipped_eq := rfl

theorem Took.trans (h : a.Took s taken skipped s') (h' : a.Took s' taken' skipped' s'') :
    a.Took s (taken ++ taken') (skipped + skipped') s'' where
  log_eq := by rw [h'.log_eq, h.log_eq, ← FindingLog.reportAll_append, List.flatMap_append]
  failures_eq := by
    rw [h'.failures_eq, h.failures_eq, List.append_assoc, List.filterMap_append]
  analyzed_eq := by rw [h'.analyzed_eq, h.analyzed_eq, Nat.add_assoc, List.countP_append]
  skipped_eq := by rw [h'.skipped_eq, h.skipped_eq, Nat.add_assoc]

/-- A cancelled run skips the next unit. -/
theorem took_skip (h : s.cancelled = true) : a.Took s [] 1 (a.step interrupt s u) := by
  rw [step, if_pos h]
  exact ⟨rfl, (List.append_nil _).symm, rfl, rfl⟩

/-- A traversal concerns the flag and the traversals only. -/
theorem exists_afterTraversal (interrupt : Interrupt) (s : RunState) (position? : Option Nat) :
    ∃ cancelled traversals,
      s.afterTraversal interrupt position? = { s with cancelled, traversals } := by
  cases position? with
  | none => exact ⟨_, _, rfl⟩
  | some position => exact ⟨_, _, rfl⟩

/-- Any other run takes the next unit. -/
theorem took_step (h : s.cancelled = false) : a.Took s [u] 0 (a.step interrupt s u) := by
  obtain ⟨cancelled, traversals, hafter⟩ :=
    exists_afterTraversal interrupt s (a.examine u).traversal
  rw [step, if_neg (Bool.not_eq_true _ ▸ h)]
  dsimp only
  rw [hafter]
  cases heq : (a.examine u).outcome with
  | error f =>
    have hfailure := failure?_of_error heq
    have hreports := reports_of_fails (isSome_failure?_iff.1 (by rw [hfailure]; rfl))
    refine ⟨?_, ?_, ?_, rfl⟩
    · rw [List.flatMap_singleton, hreports]
      rfl
    · simp [hfailure]
    · simp [hfailure]
  | ok calls =>
    have hfailure := failure?_eq_none_of_ok heq
    refine ⟨?_, ?_, ?_, rfl⟩
    · rw [List.flatMap_singleton, reports_of_ok heq]
    · simp [hfailure]
    · simp [hfailure]

theorem cancelled_step (h : s.cancelled = true) : (a.step interrupt s u).cancelled = true := by
  rw [step, if_pos h]
  exact h

/-- Nothing cancels a run that is asked to go on. -/
theorem cancelled_step_never (h : s.cancelled = false) :
    (a.step .never s u).cancelled = false := by
  have hsame : (s.afterTraversal .never (a.examine u).traversal).cancelled = false := by
    cases (a.examine u).traversal with
    | none => exact h
    | some position => exact (Bool.or_false _).trans h
  rw [step, if_neg (Bool.not_eq_true _ ▸ h)]
  dsimp only
  cases heq : (a.examine u).outcome with
  | error f => exact hsame
  | ok calls => exact hsame

/-! ## Runs -/

/-- A cancelled run skips all units. -/
theorem took_foldl_of_cancelled (h : s.cancelled = true) (units : List SourceUnit) :
    a.Took s [] units.length (units.foldl (a.step interrupt) s) := by
  induction units generalizing s with
  | nil => exact Took.refl a s
  | cons u units ih =>
    rw [List.foldl_cons, List.length_cons, Nat.add_comm]
    exact (took_skip h).trans (ih (cancelled_step h))

/-- A run takes some first units and skips the others. -/
theorem exists_took_foldl (a : Analyzer) (interrupt : Interrupt) (s : RunState)
    (units : List SourceUnit) :
    ∃ k ≤ units.length,
      a.Took s (units.take k) (units.length - k) (units.foldl (a.step interrupt) s) := by
  induction units generalizing s with
  | nil => exact ⟨0, Nat.le_refl 0, Took.refl a s⟩
  | cons u units ih =>
    cases h : s.cancelled with
    | true => exact ⟨0, Nat.zero_le _, took_foldl_of_cancelled h (u :: units)⟩
    | false =>
      obtain ⟨k, hk, htook⟩ := ih (a.step interrupt s u)
      refine ⟨k + 1, Nat.succ_le_succ hk, ?_⟩
      have hboth := (took_step h).trans htook
      rwa [Nat.zero_add, List.singleton_append, ← Nat.add_sub_add_right _ 1 k] at hboth

/-- A run that nothing cancels takes all units. -/
theorem took_foldl_never (h : s.cancelled = false) (units : List SourceUnit) :
    a.Took s units 0 (units.foldl (a.step .never) s) := by
  induction units generalizing s with
  | nil => exact Took.refl a s
  | cons u units ih => exact (took_step h).trans (ih (cancelled_step_never h))

/-- The report of a run that started with nothing. -/
theorem Took.report_eq {cancelled : Bool} (h : a.Took { cancelled } taken skipped s) :
    s.report = a.reportOn taken skipped (taken.flatMap a.reports) := by
  have hlog : s.log = FindingLog.empty.reportAll (taken.flatMap a.reports) := h.log_eq
  have hfailures : s.failures.toList = taken.filterMap a.failure? := h.failures_eq
  have hanalyzed := h.analyzed_eq.trans (Nat.zero_add _)
  have hskipped := h.skipped_eq.trans (Nat.zero_add _)
  rw [RunState.report, hlog, hfailures, hanalyzed, hskipped, FindingLog.results_reportAll, reportOn]

/-- **The report of a run**: some first units are taken. -/
theorem analyzeWith_eq (a : Analyzer) (units : List SourceUnit) (cancelled : Bool)
    (interrupt : Interrupt) :
    ∃ k ≤ units.length, a.analyzeWith units cancelled interrupt =
      a.reportOn (units.take k) (units.length - k) ((units.take k).flatMap a.reports) := by
  obtain ⟨k, hk, htook⟩ := a.exists_took_foldl interrupt { cancelled } units
  exact ⟨k, hk, htook.report_eq⟩

/-- **The report of a run that nothing cancels**: all units are taken. -/
theorem analyze_eq (a : Analyzer) (units : List SourceUnit) :
    a.analyze units = a.reportOn units 0 (units.flatMap a.reports) :=
  (took_foldl_never rfl units).report_eq

theorem skipped_analyze (a : Analyzer) (units : List SourceUnit) :
    (a.analyze units).skipped = 0 := by
  rw [analyze_eq, reportOn]

/-- One unit after the other is a run of the pool. -/
theorem exists_finishes_analyzeWith (a : Analyzer) (units : List SourceUnit) (cancelled : Bool)
    (interrupt : Interrupt) :
    ∃ s, a.Finishes units s ∧ s.report = a.analyzeWith units cancelled interrupt := by
  obtain ⟨k, hk, heq⟩ := a.analyzeWith_eq units cancelled interrupt
  have hwoven := Interleaving.flatten ((units.take k).map a.reports)
  obtain ⟨s, hs, -, -, hreport⟩ := exists_finishes (List.take_sublist k units) hwoven
  refine ⟨s, hs, ?_⟩
  rw [hreport, heq, List.length_take, Nat.min_eq_left hk, List.flatMap_def]

theorem yields_analyze (a : Analyzer) (units : List SourceUnit) :
    a.Yields units (a.analyze units) := by
  refine yields_iff.2 ⟨_, Interleaving.flatten (units.map a.reports), ?_⟩
  rw [analyze_eq, List.flatMap_def]

end Analyzer

end ForbiddenCalls
