import ForbiddenCalls.Proofs.WorkerPool

/-!
# Every schedule is possible

A run of the pool leaves behind the report for some of its units and for some
interleaving of their matches.  Here is the other direction: the workers can bring
about each of these.  The schedule that does it takes the chosen units first, then
cancels the run if others are left, then lets the jobs report in the order of the
interleaving, and closes each when it has nothing left.

* `exists_finishes`: every choice of units and every interleaving is that of a run.
* `exists_finishes_iff`: the reports that runs can end with.
* `yields_iff`: the reports that runs without a cancellation can end with.
-/

namespace ForbiddenCalls

/-! ## Following an interleaving -/

namespace Job

/-- What is left to report. -/
def left : Job → List (CallSite × Rule)
  | reporting _ left => left
  | _ => []

/-- The job after reporting what is left. -/
def close : Job → Job
  | reporting done left => analyzed (done ++ left)
  | j => j

/-- The job after its unit was taken. -/
def begun (a : Analyzer) (u : SourceUnit) : Job :=
  match (a.examine u).outcome with
  | .error f => failed f
  | .ok calls => reporting [] (a.matchesOf calls)

variable {a : Analyzer} {u : SourceUnit} {cancelled : Bool} {j : Job}

theorem step_begun (a : Analyzer) (u : SourceUnit) : Step a u false waiting [] (begun a u) := by
  cases h : (a.examine u).outcome with
  | error f =>
    rw [begun, h]
    exact Step.fail rfl h
  | ok calls =>
    rw [begun, h]
    exact Step.start rfl h

theorem left_begun (a : Analyzer) (u : SourceUnit) : (begun a u).left = a.reports u := by
  cases h : (a.examine u).outcome with
  | error f => rw [begun, Analyzer.reports, h]; rfl
  | ok calls => rw [begun, Analyzer.reports, h]; rfl

theorem ended_close_begun (a : Analyzer) (u : SourceUnit) : (begun a u).close.Ended := by
  cases h : (a.examine u).outcome with
  | error f => rw [begun, h]; trivial
  | ok calls => rw [begun, h]; trivial

theorem isSkipped_close_begun (a : Analyzer) (u : SourceUnit) :
    (begun a u).close.isSkipped = false := by
  cases h : (a.examine u).outcome with
  | error f => rw [begun, h]; rfl
  | ok calls => rw [begun, h]; rfl

/-- A job with nothing left to report is closed in at most one step. -/
theorem close_of_left_eq_nil (h : j.left = []) : j = j.close ∨ Step a u cancelled j [] j.close := by
  cases j with
  | reporting done left =>
    obtain rfl : left = [] := h
    refine Or.inr ?_
    rw [close, List.append_nil]
    exact Step.finish
  | waiting => exact Or.inl rfl
  | analyzed _ => exact Or.inl rfl
  | failed _ => exact Or.inl rfl
  | skipped => exact Or.inl rfl

/-- A job with something left reports the first of it. -/
theorem exists_step_of_left {m : CallSite × Rule} {ms : List (CallSite × Rule)}
    (h : j.left = m :: ms) :
    ∃ j', Step a u cancelled j [m] j' ∧ j'.left = ms ∧ j'.close = j.close := by
  cases j with
  | reporting done left =>
    obtain rfl : left = m :: ms := h
    refine ⟨reporting (done ++ [m]) ms, Step.report, rfl, ?_⟩
    rw [close, close, List.append_assoc, List.singleton_append]
  | waiting => exact absurd h (List.cons_ne_nil m ms).symm
  | analyzed _ => exact absurd h (List.cons_ne_nil m ms).symm
  | failed _ => exact absurd h (List.cons_ne_nil m ms).symm
  | skipped => exact absurd h (List.cons_ne_nil m ms).symm

end Job

namespace Pool

open Relation (ReflTransGen)

variable {a : Analyzer} {cancelled : Bool} {log : FindingLog}

/-- Jobs that each stay as they are or make a step without a report do so one after
the other. -/
theorem run_quiet {β : Type*} {unit : β → SourceUnit} {j j' : β → Job} (bs : List β)
    (before : List (SourceUnit × Job))
    (h : ∀ b ∈ bs, j b = j' b ∨ Job.Step a (unit b) cancelled (j b) [] (j' b)) :
    ReflTransGen (Step a) ⟨cancelled, before ++ bs.map fun b => (unit b, j b), log⟩
      ⟨cancelled, before ++ bs.map fun b => (unit b, j' b), log⟩ := by
  induction bs generalizing before with
  | nil => exact ReflTransGen.refl
  | cons b bs ih =>
    obtain ⟨hb, hbs⟩ := List.forall_mem_cons.1 h
    have hrest := ih (before ++ [(unit b, j' b)]) hbs
    rw [List.append_assoc, List.append_assoc] at hrest
    rcases hb with heq | hstep
    · rwa [List.map_cons, heq]
    · exact ReflTransGen.head (Step.work hstep) hrest

/-- The jobs can report what is left to them in every interleaving. -/
theorem run_close {jobs : List (SourceUnit × Job)} {ms : List (CallSite × Rule)}
    (h : Interleaving (jobs.map fun p => p.2.left) ms) :
    ReflTransGen (Step a) ⟨cancelled, jobs, log⟩
      ⟨cancelled, jobs.map fun p => (p.1, p.2.close), log.reportAll ms⟩ := by
  induction ms generalizing jobs log with
  | nil =>
    have hquiet : ∀ p ∈ jobs,
        p.2 = p.2.close ∨ Job.Step a p.1 cancelled p.2 [] p.2.close := fun p hp =>
      Job.close_of_left_eq_nil (Interleaving.nil_iff.1 h _ (List.mem_map_of_mem hp))
    have hrun : ReflTransGen (Step a) ⟨cancelled, jobs.map fun p => (p.1, p.2), log⟩
        ⟨cancelled, jobs.map fun p => (p.1, p.2.close), log⟩ := run_quiet jobs [] hquiet
    rwa [List.map_id'] at hrun
  | cons m ms ih =>
    obtain ⟨before, q, after, hsplit, hrest⟩ := h.uncons
    obtain ⟨jobsBefore, jobsRest, rfl, rfl, hsplit'⟩ := List.map_eq_append_iff.1 hsplit
    obtain ⟨⟨u, j⟩, jobsAfter, rfl, hleft, rfl⟩ := List.map_eq_cons_iff.1 hsplit'
    obtain ⟨j', hstep, hleft', hclose⟩ := Job.exists_step_of_left hleft
    have hwoven : Interleaving ((jobsBefore ++ (u, j') :: jobsAfter).map fun p => p.2.left) ms := by
      rwa [List.map_append, List.map_cons, hleft']
    have hend : (jobsBefore ++ (u, j) :: jobsAfter).map (fun p => (p.1, p.2.close)) =
        (jobsBefore ++ (u, j') :: jobsAfter).map fun p => (p.1, p.2.close) := by
      rw [List.map_append, List.map_append, List.map_cons, List.map_cons, hclose]
    rw [hend]
    exact ReflTransGen.head (Step.work hstep) (ih hwoven)

/-- A job after the chosen units were taken. -/
def takenJob (a : Analyzer) (c : SourceUnit × Bool) : Job :=
  if c.2 then Job.begun a c.1 else .waiting

/-- A job after the chosen units were taken and the others skipped. -/
def chosenJob (a : Analyzer) (c : SourceUnit × Bool) : Job :=
  if c.2 then Job.begun a c.1 else .skipped

/-- A run can take the chosen units and skip the others.  It is cancelled only if
there are others. -/
theorem run_choose (a : Analyzer) (cs : List (SourceUnit × Bool)) :
    ReflTransGen (Step a) (start (cs.map Prod.fst))
      ⟨cs.any fun c => !c.2, cs.map fun c => (c.1, chosenJob a c), .empty⟩ := by
  -- the chosen units are taken first, since nothing is taken after the cancellation
  have htake : ReflTransGen (Step a) (start (cs.map Prod.fst))
      ⟨false, cs.map fun c => (c.1, takenJob a c), .empty⟩ := by
    rw [start, List.map_map]
    refine run_quiet (j := fun _ => Job.waiting) cs [] fun c _ => ?_
    rcases c with ⟨u, _ | _⟩
    · exact Or.inl rfl
    · exact Or.inr (Job.step_begun a u)
  have hcancel : ReflTransGen (Step a) ⟨false, cs.map fun c => (c.1, takenJob a c), .empty⟩
      ⟨cs.any fun c => !c.2, cs.map fun c => (c.1, takenJob a c), .empty⟩ := by
    cases cs.any fun c => !c.2 with
    | false => exact ReflTransGen.refl
    | true => exact ReflTransGen.single Step.cancel
  refine (htake.trans hcancel).trans (run_quiet cs [] fun c hc => ?_)
  rcases c with ⟨u, _ | _⟩
  · exact Or.inr (Job.Step.skip (List.any_eq_true.2 ⟨_, hc, rfl⟩))
  · exact Or.inl rfl

/-- The pool at the end of such a run. -/
def chosenEnd (a : Analyzer) (cs : List (SourceUnit × Bool)) (ms : List (CallSite × Rule)) :
    Pool :=
  ⟨cs.any fun c => !c.2, cs.map fun c => (c.1, (chosenJob a c).close),
    FindingLog.empty.reportAll ms⟩

variable {cs : List (SourceUnit × Bool)} {ms : List (CallSite × Rule)}

theorem run_chosenEnd (h : Interleaving (cs.map fun c => (chosenJob a c).left) ms) :
    ReflTransGen (Step a) (start (cs.map Prod.fst)) (chosenEnd a cs ms) := by
  have hleft : Interleaving
      ((cs.map fun c => (c.1, chosenJob a c)).map fun p => p.2.left) ms := by
    rwa [List.map_map]
  have hclose := run_choose a cs |>.trans (run_close hleft)
  rwa [List.map_map] at hclose

theorem ended_chosenEnd : ∀ p ∈ (chosenEnd a cs ms).jobs, p.2.Ended := by
  intro p hp
  obtain ⟨⟨u, _ | _⟩, -, rfl⟩ := List.mem_map.1 hp
  · trivial
  · exact Job.ended_close_begun a u

theorem taken_chosenEnd : (chosenEnd a cs ms).taken = (cs.filter fun c => c.2).map Prod.fst := by
  rw [taken, chosenEnd, List.filter_map, List.map_map]
  refine congrArg (List.map Prod.fst) (List.filter_congr ?_)
  rintro ⟨u, _ | _⟩ _
  · rfl
  · exact congrArg not (Job.isSkipped_close_begun a u)

end Pool

/-- A sublist is what is kept of a list by choosing for each entry. -/
theorem exists_choices {α : Type*} {taken units : List α} (h : taken.Sublist units) :
    ∃ cs : List (α × Bool), cs.map Prod.fst = units ∧
      (cs.filter fun c => c.2).map Prod.fst = taken := by
  induction h with
  | slnil => exact ⟨[], rfl, rfl⟩
  | cons u _ ih =>
    obtain ⟨cs, rfl, rfl⟩ := ih
    exact ⟨(u, false) :: cs, rfl, rfl⟩
  | cons_cons u _ ih =>
    obtain ⟨cs, rfl, rfl⟩ := ih
    exact ⟨(u, true) :: cs, rfl, rfl⟩

namespace Analyzer

variable {a : Analyzer} {units taken : List SourceUnit} {ms : List (CallSite × Rule)}

/-- **Every choice of units and every interleaving** of their matches is that of a
run, which is cancelled only if some units are skipped. -/
theorem exists_finishes (hsub : taken.Sublist units)
    (h : Interleaving (taken.map a.reports) ms) :
    ∃ s, a.Finishes units s ∧ s.taken = taken ∧ (taken = units → s.cancelled = false) ∧
      s.report = a.reportOn taken (units.length - taken.length) ms := by
  obtain ⟨cs, rfl, rfl⟩ := exists_choices hsub
  have hleft : ∀ c ∈ cs, c.2 = false → (Pool.chosenJob a c).left = [] := by
    rintro ⟨u, _ | _⟩ _ hc
    · rfl
    · exact nomatch hc
  have hwoven : Interleaving (cs.map fun c => (Pool.chosenJob a c).left) ms := by
    refine (Interleaving.map_filter_iff hleft).1 ?_
    rw [List.map_map] at h
    refine (List.map_congr_left fun c hc => ?_) ▸ h
    rw [Pool.chosenJob, if_pos (List.mem_filter.1 hc).2, Job.left_begun]
    rfl
  have hrun := Pool.run_chosenEnd hwoven
  refine ⟨_, ⟨hrun, Pool.ended_chosenEnd⟩, Pool.taken_chosenEnd, ?_, ?_⟩
  · intro hall
    have hlength := congrArg List.length hall
    rw [List.length_map, List.length_map, List.length_filter_eq_length_iff] at hlength
    simpa [Pool.chosenEnd] using hlength
  · have hjobs : (Pool.chosenEnd a cs ms).jobs.length = (cs.map Prod.fst).length := by
      rw [Pool.chosenEnd, List.length_map, List.length_map]
    rw [Pool.report_eq (Pool.Inv.run hrun).valid Pool.ended_chosenEnd rfl, Pool.taken_chosenEnd,
      hjobs]

/-- The reports that runs can end with are those for some of the units, with their
matches in some interleaving. -/
theorem exists_finishes_iff {r : Report} :
    (∃ s, a.Finishes units s ∧ s.report = r) ↔
      ∃ taken ms, taken.Sublist units ∧ Interleaving (taken.map a.reports) ms ∧
        a.reportOn taken (units.length - taken.length) ms = r := by
  constructor
  · rintro ⟨s, hs, rfl⟩
    obtain ⟨ms, hwoven, hreport⟩ := hs.exists_interleaving
    exact ⟨s.taken, ms, hs.taken_sublist, hwoven, hreport.symm⟩
  · rintro ⟨taken, ms, hsub, hwoven, rfl⟩
    obtain ⟨s, hs, -, -, hreport⟩ := exists_finishes hsub hwoven
    exact ⟨s, hs, hreport⟩

/-! ## Runs that are not cancelled -/

/-- A run over the units that is not cancelled can end with this report. -/
def Yields (a : Analyzer) (units : List SourceUnit) (r : Report) : Prop :=
  ∃ s, a.Finishes units s ∧ s.cancelled = false ∧ s.report = r

/-- The reports of such runs are those for all units, with the matches in some
interleaving. -/
theorem yields_iff {r : Report} :
    a.Yields units r ↔
      ∃ ms, Interleaving (units.map a.reports) ms ∧ r = a.reportOn units 0 ms := by
  constructor
  · rintro ⟨s, hs, hcancelled, rfl⟩
    obtain ⟨ms, hwoven, hreport⟩ := hs.exists_interleaving
    rw [hs.taken_eq hcancelled] at hwoven hreport
    rw [Nat.sub_self] at hreport
    exact ⟨ms, hwoven, hreport⟩
  · rintro ⟨ms, hwoven, rfl⟩
    obtain ⟨s, hs, -, hcancelled, hreport⟩ := exists_finishes (List.Sublist.refl units) hwoven
    rw [Nat.sub_self] at hreport
    exact ⟨s, hs, hcancelled rfl, hreport⟩

end Analyzer

end ForbiddenCalls
