import ForbiddenCalls.Proofs.Soundness
import ForbiddenCalls.Proofs.WatchedRun

/-!
# Cancelling a run

The token of a run is looked at before each unit and not again until the next one.  So
whenever it is cancelled, some first units are taken and finished, and nothing is asked of
the others.  What carries this through a run is the world: the token only changes there,
and it is never taken back.

* `Analyzer.TakesFirst`: a run takes the first `k` units.  The token is cancelled before
  the turn of a unit exactly if the unit is not one of them.
* `takesFirst_of_cancelled`, `TakesFirst.cons`, `exists_takesFirst`: a run with a cancelled
  token takes none, any other takes one unit and then what a run over the units behind it
  takes, and so every run takes some first units.
* `TakesFirst.run_runIn`, `TakesFirst.analyzeWith_eq`: its report, in a world and as the
  analyzer gives it.
* `runIn_takes_first`: all that a run keeps when it is cancelled, and the run after it.
-/

namespace ForbiddenCalls

namespace Job

/-- A job that began and was closed has ended with what becomes of its unit. -/
theorem valid_close_begun (a : Analyzer) (u : SourceUnit) (cancelled : Bool) :
    (begun a u).close.Valid a u cancelled := by
  cases h : (a.examine u).outcome with
  | error f =>
    rw [begun, h]
    exact Analyzer.failure?_of_error h
  | ok calls =>
    rw [begun, h]
    exact ⟨Analyzer.failure?_eq_none_of_ok h, (Analyzer.reports_of_ok h).symm⟩

theorem reported_close_begun (a : Analyzer) (u : SourceUnit) :
    (begun a u).close.reported = a.reports u := by
  rw [(valid_close_begun a u false).reported_eq (ended_close_begun a u),
    isSkipped_close_begun, if_neg Bool.false_ne_true]

end Job

namespace Analyzer

variable {a : Analyzer} {t : CancellationToken} {fires : Firing} {u : SourceUnit}
  {units : List SourceUnit} {w : World} {k : Nat}

/-- The jobs of a run that takes the first `k` units. -/
def firstJobs (a : Analyzer) (units : List SourceUnit) (k : Nat) : List (SourceUnit × Job) :=
  (units.take k).map (fun u => (u, (Job.begun a u).close)) ++
    (units.drop k).map fun u => (u, .skipped)

/-- A run over the units that begins in a world takes the first `k` of them.  When the
turn of a unit comes, the token is cancelled exactly if the unit is not one of these; only
these are asked anything; and a run of the analyzer that agrees with the world skips the
others. -/
structure TakesFirst (a : Analyzer) (t : CancellationToken) (fires : Firing)
    (units : List SourceUnit) (w : World) (k : Nat) : Prop where
  le_length : k ≤ units.length
  run_eq : (a.takeAllIn t fires units).run w =
    pure (a.firstJobs units k, a.worldAfter t fires units w)
  accesses_eq : (a.worldAfter t fires units w).accesses =
    w.accesses ++ (units.take k).flatMap a.accessesOf
  cancelled_iff : ∀ i < units.length,
    (a.worldAfter t fires (units.take i) w).cancelled t = true ↔ k ≤ i
  skipped_eq : ∀ {w₀ s}, Agrees t w₀ s w →
    (units.foldl (a.step (w₀.interrupt fires t)) s).skipped = s.skipped + (units.length - k)

/-- A cancelled run takes no unit. -/
theorem takesFirst_of_cancelled (h : w.cancelled t = true) (units : List SourceUnit) :
    a.TakesFirst t fires units w 0 where
  le_length := Nat.zero_le _
  run_eq := by
    rw [worldAfter_of_cancelled h, run_takeAllIn_of_cancelled h]
    rfl
  accesses_eq := by
    rw [worldAfter_of_cancelled h]
    exact (List.append_nil _).symm
  cancelled_iff i _ := by
    rw [worldAfter_of_cancelled h]
    exact iff_of_true h (Nat.zero_le i)
  skipped_eq hagrees := (took_foldl_of_cancelled (hagrees.cancelled_eq.trans h) units).skipped_eq

/-- Any other run takes one unit more than it takes of the units behind it. -/
theorem TakesFirst.cons (h : w.cancelled t = false)
    (htakes : a.TakesFirst t fires units
      (w.after fires (a.accessesOf u) (a.examine u).traversal) k) :
    a.TakesFirst t fires (u :: units) w (k + 1) where
  le_length := Nat.succ_le_succ htakes.le_length
  run_eq := by
    rw [worldAfter_cons h]
    exact run_takeAllIn_cons (run_takeIn h) htakes.run_eq
  accesses_eq := by
    rw [worldAfter_cons h, htakes.accesses_eq, List.take_succ_cons, List.flatMap_cons,
      ← List.append_assoc]
    rfl
  cancelled_iff i hi := by
    cases i with
    | zero =>
      have hstart : (a.worldAfter t fires [] w).cancelled t = false := h
      exact iff_of_false (Bool.eq_false_iff.1 hstart) (Nat.not_succ_le_zero k)
    | succ i =>
      rw [List.take_succ_cons, worldAfter_cons h,
        htakes.cancelled_iff i (Nat.lt_of_succ_lt_succ hi), Nat.add_le_add_iff_right]
  skipped_eq {w₀ s} hagrees := by
    have htook : a.Took s [u] 0 (a.step (w₀.interrupt fires t) s u) :=
      took_step (hagrees.cancelled_eq.trans h)
    rw [List.foldl_cons, htakes.skipped_eq (hagrees.step h u), htook.skipped_eq, Nat.add_zero,
      List.length_cons, Nat.add_sub_add_right]

/-- **Every run takes some first units.** -/
theorem exists_takesFirst (a : Analyzer) (t : CancellationToken) (fires : Firing)
    (units : List SourceUnit) (w : World) : ∃ k, a.TakesFirst t fires units w k := by
  induction units generalizing w with
  | nil =>
    refine ⟨0, Nat.le_refl 0, rfl, (List.append_nil _).symm, ?_, fun _ => rfl⟩
    exact fun i hi => absurd hi (Nat.not_lt_zero i)
  | cons u units ih =>
    cases h : w.cancelled t with
    | true => exact ⟨0, takesFirst_of_cancelled h (u :: units)⟩
    | false =>
      obtain ⟨k, htakes⟩ := ih (w.after fires (a.accessesOf u) (a.examine u).traversal)
      exact ⟨k + 1, htakes.cons h⟩

/-! ## The report -/

theorem taken_firstJobs {cancelled : Bool} {log : FindingLog} :
    Pool.taken ⟨cancelled, a.firstJobs units k, log⟩ = units.take k := by
  have hbegun : ((fun p : SourceUnit × Job => !p.2.isSkipped) ∘
      fun u => (u, (Job.begun a u).close)) = fun _ => true :=
    funext fun u => congrArg not (Job.isSkipped_close_begun a u)
  have hskipped : ((fun p : SourceUnit × Job => !p.2.isSkipped) ∘
      fun u => (u, .skipped)) = fun _ => false := rfl
  rw [Pool.taken, firstJobs, List.filter_append, List.map_append, List.filter_map,
    List.filter_map, List.map_map, List.map_map, hbegun, hskipped]
  simp [Function.comp_def]

theorem flatMap_reported_firstJobs :
    (a.firstJobs units k).flatMap (fun p => p.2.reported) = (units.take k).flatMap a.reports := by
  have hskipped : (units.drop k).flatMap (fun _ => Job.skipped.reported) = [] :=
    List.flatMap_eq_nil_iff.2 fun _ _ => rfl
  rw [firstJobs, List.flatMap_append, List.flatMap_map, List.flatMap_map, hskipped,
    List.append_nil]
  exact List.flatMap_congr fun u _ => Job.reported_close_begun a u

/-- The report of a pool in which the first `k` units were taken. -/
theorem report_firstJobs (a : Analyzer) (hk : k ≤ units.length) (cancelled : Bool) :
    Pool.report ⟨cancelled, a.firstJobs units k,
        FindingLog.empty.reportAll ((units.take k).flatMap a.reports)⟩ =
      { a.analyze (units.take k) with skipped := units.length - k } := by
  -- whether the token was cancelled in the end plays no part in the report
  let s : Pool := ⟨true, a.firstJobs units k,
    FindingLog.empty.reportAll ((units.take k).flatMap a.reports)⟩
  have hjobs : ∀ p ∈ s.jobs, p.2.Valid a p.1 s.cancelled ∧ p.2.Ended := by
    intro p hp
    rcases List.mem_append.1 hp with hp | hp
    · obtain ⟨u, -, rfl⟩ := List.mem_map.1 hp
      exact ⟨Job.valid_close_begun a u true, Job.ended_close_begun a u⟩
    · obtain ⟨u, -, rfl⟩ := List.mem_map.1 hp
      exact ⟨rfl, trivial⟩
  have hlength : s.jobs.length = units.length := by
    simp only [s, firstJobs, List.length_append, List.length_map, List.length_take,
      List.length_drop]
    omega
  have hreport : s.report = _ :=
    Pool.report_eq (fun p hp => (hjobs p hp).1) (fun p hp => (hjobs p hp).2) rfl
  rw [taken_firstJobs, hlength, List.length_take, Nat.min_eq_left hk] at hreport
  rw [analyze_eq]
  exact hreport

/-- What a run leaves behind. -/
theorem TakesFirst.run_runIn (h : a.TakesFirst t fires units w k) :
    (a.runIn t fires units).run w =
      pure (⟨(a.worldAfter t fires units w).cancelled t, a.firstJobs units k,
        FindingLog.empty.reportAll ((units.take k).flatMap a.reports)⟩,
        a.worldAfter t fires units w) := by
  simp [runIn, h.run_eq, flatMap_reported_firstJobs]

/-- It is the run of the analyzer, cancelled when the token is. -/
theorem TakesFirst.analyzeWith_eq (h : a.TakesFirst t fires units w k) :
    a.analyzeWith units (w.cancelled t) (w.interrupt fires t) =
      { a.analyze (units.take k) with skipped := units.length - k } := by
  have hle := h.le_length
  have hdispatched : a.dispatched units (w.cancelled t) (w.interrupt fires t) = k := by
    rw [dispatched, h.skipped_eq (agrees_start t w)]
    dsimp only
    omega
  rw [analyzeWith_eq_dispatched, hdispatched, analyze_eq]
  dsimp only
  rw [List.length_take, Nat.min_eq_left hle]
  rfl

/-- A token that no adapter cancels stays as it was. -/
theorem cancelled_worldAfter {t' : CancellationToken}
    (h : ∀ traversals, fires traversals t' = false) (units : List SourceUnit) (w : World) :
    (a.worldAfter t fires units w).cancelled t' = w.cancelled t' := by
  induction units generalizing w with
  | nil => rfl
  | cons u units ih =>
    cases hcancelled : w.cancelled t with
    | true => rw [worldAfter_of_cancelled hcancelled]
    | false =>
      rw [worldAfter_cons hcancelled, ih, World.after]
      cases (a.examine u).traversal with
      | none => exact Bool.or_false _
      | some position => simp [h]

/-- A run with a fresh token is one that nothing cancels. -/
theorem exists_runIn_of_fresh (hw : w.cancelled t = false)
    (h : ∀ traversals, fires traversals t = false) (units : List SourceUnit) :
    ∃ s, (a.runIn t fires units).run w = pure (s, a.worldAfter t fires units w) ∧
      s.report = a.analyze units := by
  obtain ⟨k, htakes⟩ := a.exists_takesFirst t fires units w
  have hnever : w.interrupt fires t = .never := funext fun traversals => h _
  refine ⟨_, htakes.run_runIn, ?_⟩
  rw [a.report_firstJobs htakes.le_length, ← htakes.analyzeWith_eq, hw, hnever, analyze]

/-- The unit during which the token was cancelled is the last one that is taken. -/
theorem TakesFirst.eq_of_cancelled (h : a.TakesFirst t fires units w k) {i : Nat}
    (hi : i < units.length)
    (hbefore : (a.worldAfter t fires (units.take i) w).cancelled t = false)
    (hafter : (a.worldAfter t fires (units.take (i + 1)) w).cancelled t = true) : k = i + 1 := by
  have hlt : ¬ k ≤ i := fun hle => by
    rw [(h.cancelled_iff i hi).2 hle] at hbefore
    exact nomatch hbefore
  have hle : k ≤ i + 1 := by
    rcases Nat.lt_or_ge (i + 1) units.length with hnext | hlast
    · exact (h.cancelled_iff (i + 1) hnext).1 hafter
    · exact Nat.le_trans h.le_length hlast
  omega

/-- The matches of a unit are found in a run that takes it. -/
theorem key_mem_findings_analyze {m : CallSite × Rule} (hu : u ∈ units)
    (hm : m ∈ a.reports u) :
    (m.2.finding m.1).key ∈ (a.analyze units).findings.map Finding.key := by
  rw [analyze_eq, reportOn, Finding.mem_map_key_listing]
  exact List.mem_map_of_mem (List.mem_map_of_mem (List.mem_flatMap.2 ⟨u, hu, hm⟩))

/-- **Cancelling a run keeps a consistent partial result.**  The token of the run may be
cancelled before it or during any traversal.  Then there is a `k` such that the first `k`
units are taken, and the report is that of a run over these which nothing cancels, with
the other units skipped; it is also the report of `analyzeWith`.  Only the first `k` units
are measured, read or traversed.  They are those before whose turn the token was not
cancelled.  A unit during which the token was cancelled is the last one of them and keeps
its findings.  The run was cancelled, as the report tells it, if `k` is not the number of
all units.  A later run in the world that is left, with a token of its own that the
adapters do not cancel, reports what a run reports that nothing cancels. -/
theorem runIn_takes_first (a : Analyzer) (t : CancellationToken) (fires : Firing)
    (units : List SourceUnit) (w : World) :
    ∃ k ≤ units.length, ∃ s,
      (a.runIn t fires units).run w = pure (s, a.worldAfter t fires units w) ∧
      s.taken = units.take k ∧
      s.report = { a.analyze (units.take k) with skipped := units.length - k } ∧
      s.report = a.analyzeWith units (w.cancelled t) (w.interrupt fires t) ∧
      (a.worldAfter t fires units w).accesses =
        w.accesses ++ (units.take k).flatMap a.accessesOf ∧
      (∀ u, ∃ position, a.accessesOf u <+: [.measured u, .read u, .traversed u position]) ∧
      (∀ i < units.length, (a.worldAfter t fires (units.take i) w).cancelled t = true ↔ k ≤ i) ∧
      (∀ (i : Nat) (hi : i < units.length),
        (a.worldAfter t fires (units.take i) w).cancelled t = false →
        (a.worldAfter t fires (units.take (i + 1)) w).cancelled t = true →
        k = i + 1 ∧
          ∀ m ∈ a.reports units[i], (m.2.finding m.1).key ∈ s.report.findings.map Finding.key) ∧
      (s.report.wasCancelled = true ↔ k < units.length) ∧
      ∀ t' later, w.cancelled t' = false → (∀ traversals, fires traversals t' = false) →
        ∃ s', (a.runIn t' fires later).run (a.worldAfter t fires units w) =
          pure (s', a.worldAfter t' fires later (a.worldAfter t fires units w)) ∧
          s'.report = a.analyze later := by
  obtain ⟨k, htakes⟩ := a.exists_takesFirst t fires units w
  have hreport := a.report_firstJobs htakes.le_length ((a.worldAfter t fires units w).cancelled t)
  refine ⟨k, htakes.le_length, _, htakes.run_runIn, taken_firstJobs, hreport, ?_,
    htakes.accesses_eq, a.exists_accessesOf_prefix, htakes.cancelled_iff, ?_, ?_, ?_⟩
  · rw [hreport, htakes.analyzeWith_eq]
  · intro i hi hbefore hafter
    obtain rfl := htakes.eq_of_cancelled hi hbefore hafter
    refine ⟨rfl, fun m hm => ?_⟩
    rw [hreport]
    have hmem : units[i] ∈ units.take (i + 1) := List.mem_take_iff_getElem.2 ⟨i, by omega, rfl⟩
    exact key_mem_findings_analyze hmem hm
  · rw [hreport, Report.wasCancelled_iff]
    dsimp only
    omega
  · intro t' later hfresh hnever
    have hfresh' : (a.worldAfter t fires units w).cancelled t' = false :=
      (cancelled_worldAfter hnever units w).trans hfresh
    exact exists_runIn_of_fresh hfresh' hnever later

/-- The instance of two units and a token that is cancelled in the first traversal, with
a later run over both units. -/
theorem runIn_takes_first_logUnit :
    let units := [logUnit "A.java", logUnit "B.java"]
    let fires : Firing := fun _ t => t == 0
    ∃ s w', (logAnalyzer.runIn 0 fires units).run {} = pure (s, w') ∧
      s.taken = [logUnit "A.java"] ∧ s.report.skipped = 1 ∧
      keyOf (logCall ⟨"A.java"⟩ 5) logRule ∈ s.report.findings.map Finding.key ∧
      ∃ s' w'', (logAnalyzer.runIn 1 fires units).run w' = pure (s', w'') ∧
        s'.report = logAnalyzer.analyze units := by
  intro units fires
  obtain ⟨k, -, s, hrun, htaken, hreport, -, -, -, -, hflight, -, hlater⟩ :=
    runIn_takes_first logAnalyzer 0 fires units {}
  have hafter : (logAnalyzer.worldAfter 0 fires (units.take 1) {}).cancelled 0 = true := by
    decide +kernel
  obtain ⟨rfl, hkeeps⟩ := hflight 0 (by decide) rfl hafter
  obtain ⟨s', hrun', hreport'⟩ := hlater 1 units rfl fun _ => rfl
  have hforbids := @forbids_logUnit "A.java" (by decide +kernel)
  refine ⟨s, _, hrun, htaken, by rw [hreport]; rfl, ?_, s', _, hrun', hreport'⟩
  exact hkeeps _ (mem_reports_iff.2 ⟨_, _, hforbids, rfl⟩)

end Analyzer

end ForbiddenCalls
