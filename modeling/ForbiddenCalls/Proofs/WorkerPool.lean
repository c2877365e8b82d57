import ForbiddenCalls.Proofs.Examination
import ForbiddenCalls.Proofs.Interleaving
import ForbiddenCalls.Proofs.Listing
import Mathlib.Logic.Relation

/-!
# Workers that share a log

`Analyzer.analyzeWith` takes the units one after the other.  In a pool of workers
the units are taken in any order and several at a time; what the workers share is
the flag that cancels the run and the log.  This file describes such runs step by
step, and then without steps.

A job is a unit with what its worker has done so far.  A step of the pool is a
step of one job, or the cancellation, which may come at any time.  A worker looks
at the flag before it takes a unit and not again, so a unit that was taken is
finished.

* `Pool.Inv`: what every step keeps.  The log is that of an interleaving of what
  the jobs have reported, and every job agrees with the examination of its unit.
* `Inv.step`, `Inv.run`: a step keeps it, so every state of a run has it.
* `Finishes.exists_interleaving`: what a run leaves behind.  The units that were not
  taken are counted as skipped, and the log has received the reports of those that
  were taken, in some interleaving.
* `Finishes.taken_eq`: without a cancellation all units are taken.
-/

namespace ForbiddenCalls

/-! ## Jobs -/

/-- How far a worker has come with a unit.  What it has reported is kept beside
what is left to report. -/
inductive Job where
  | waiting
  | reporting (done left : List (CallSite × Rule))
  | analyzed (done : List (CallSite × Rule))
  | failed (failure : Failure)
  | skipped

namespace Job

/-- What the job has reported so far. -/
def reported : Job → List (CallSite × Rule)
  | reporting done _ => done
  | analyzed done => done
  | _ => []

/-- The failure that the job ended with. -/
def failure? : Job → Option Failure
  | failed failure => some failure
  | _ => none

/-- Whether the job ended with an analyzed unit. -/
def isAnalyzed : Job → Bool
  | analyzed _ => true
  | _ => false

/-- Whether the unit was never taken. -/
def isSkipped : Job → Bool
  | skipped => true
  | _ => false

/-- Nothing is left to do. -/
def Ended : Job → Prop
  | waiting => False
  | reporting _ _ => False
  | _ => True

/-- A step of the job for a unit, with what it reports. -/
inductive Step (a : Analyzer) (u : SourceUnit) (cancelled : Bool) :
    Job → List (CallSite × Rule) → Job → Prop
  | skip : cancelled = true → Step a u cancelled waiting [] skipped
  | fail {f : Failure} : cancelled = false → (a.examine u).outcome = .error f →
      Step a u cancelled waiting [] (failed f)
  | start {calls : List CallSite} : cancelled = false → (a.examine u).outcome = .ok calls →
      Step a u cancelled waiting [] (reporting [] (a.matchesOf calls))
  | report {done left : List (CallSite × Rule)} {m : CallSite × Rule} :
      Step a u cancelled (reporting done (m :: left)) [m] (reporting (done ++ [m]) left)
  | finish {done : List (CallSite × Rule)} :
      Step a u cancelled (reporting done []) [] (analyzed done)

/-- The job agrees with the examination of its unit. -/
def Valid (a : Analyzer) (u : SourceUnit) (cancelled : Bool) : Job → Prop
  | waiting => True
  | reporting done left => a.failure? u = none ∧ done ++ left = a.reports u
  | analyzed done => a.failure? u = none ∧ done = a.reports u
  | failed f => a.failure? u = some f
  | skipped => cancelled = true

variable {a : Analyzer} {u : SourceUnit} {cancelled : Bool} {j j' : Job}
  {ms : List (CallSite × Rule)}

theorem Step.reported_eq (h : Step a u cancelled j ms j') : j'.reported = j.reported ++ ms := by
  cases h with
  | skip _ => rfl
  | fail _ _ => rfl
  | start _ _ => rfl
  | report => rfl
  | finish => exact (List.append_nil _).symm

theorem Step.valid (h : Step a u cancelled j ms j') (hj : j.Valid a u cancelled) :
    j'.Valid a u cancelled := by
  cases h with
  | skip hcancelled => exact hcancelled
  | fail _ hexamine => exact Analyzer.failure?_of_error hexamine
  | start _ hexamine =>
    exact ⟨Analyzer.failure?_eq_none_of_ok hexamine, (Analyzer.reports_of_ok hexamine).symm⟩
  | report =>
    obtain ⟨hnone, hreports⟩ := hj
    exact ⟨hnone, by rw [List.append_assoc, List.singleton_append, hreports]⟩
  | finish =>
    obtain ⟨hnone, hreports⟩ := hj
    exact ⟨hnone, by rwa [List.append_nil] at hreports⟩

/-- Cancelling the run leaves the jobs in agreement. -/
theorem Valid.cancel (hj : j.Valid a u cancelled) : j.Valid a u true := by
  cases j with
  | skipped => rfl
  | waiting => exact hj
  | reporting _ _ => exact hj
  | analyzed _ => exact hj
  | failed _ => exact hj

theorem Valid.isSkipped_eq_false (hj : j.Valid a u false) : j.isSkipped = false := by
  cases j with
  | skipped => exact absurd hj Bool.false_ne_true
  | waiting => rfl
  | reporting _ _ => rfl
  | analyzed _ => rfl
  | failed _ => rfl

/-- A job that ended has reported all matches of its unit, or skipped it. -/
theorem Valid.reported_eq (hj : j.Valid a u cancelled) (hended : j.Ended) :
    j.reported = if j.isSkipped then [] else a.reports u := by
  cases j with
  | waiting => exact hended.elim
  | reporting _ _ => exact hended.elim
  | analyzed _ => exact hj.2
  | failed f =>
    have hfails : a.Fails u := Analyzer.isSome_failure?_iff.1 (by rw [hj]; rfl)
    exact (Analyzer.reports_of_fails hfails).symm
  | skipped => rfl

/-- A job that ended has the failure of its unit, or skipped it. -/
theorem Valid.failure?_eq (hj : j.Valid a u cancelled) (hended : j.Ended) :
    j.failure? = if j.isSkipped then none else a.failure? u := by
  cases j with
  | waiting => exact hended.elim
  | reporting _ _ => exact hended.elim
  | analyzed _ => exact hj.1.symm
  | failed f => exact Eq.symm hj
  | skipped => rfl

/-- A job that ended without a failure has analyzed its unit, or skipped it. -/
theorem Valid.isAnalyzed_eq (hj : j.Valid a u cancelled) (hended : j.Ended) :
    j.isAnalyzed = (!j.isSkipped && (a.failure? u).isNone) := by
  cases j with
  | waiting => exact hended.elim
  | reporting _ _ => exact hended.elim
  | analyzed _ => simp [isAnalyzed, isSkipped, hj.1]
  | failed f =>
    have hsome : a.failure? u = some f := hj
    simp [isAnalyzed, isSkipped, hsome]
  | skipped => rfl

end Job

/-! ## Pools -/

/-- The state of a pool: whether the run is cancelled, the jobs in the order of the
units, and the log that they share. -/
structure Pool where
  cancelled : Bool
  jobs : List (SourceUnit × Job)
  log : FindingLog

namespace Pool

/-- The pool before any unit is taken. -/
def start (units : List SourceUnit) : Pool :=
  ⟨false, units.map fun u => (u, .waiting), .empty⟩

/-- The report of a pool whose jobs have ended. -/
def report (s : Pool) : Report where
  findings := s.log.results
  failures := Failure.sorted (s.jobs.filterMap fun p => p.2.failure?)
  analyzed := s.jobs.countP fun p => p.2.isAnalyzed
  skipped := s.jobs.countP fun p => p.2.isSkipped

/-- The units that were taken. -/
def taken (s : Pool) : List SourceUnit :=
  (s.jobs.filter fun p => !p.2.isSkipped).map Prod.fst

/-- A step of the pool: the cancellation of the run, or a step of one job. -/
inductive Step (a : Analyzer) : Pool → Pool → Prop
  | cancel {s : Pool} : Step a s { s with cancelled := true }
  | work {cancelled : Bool} {before after : List (SourceUnit × Job)} {u : SourceUnit}
      {j j' : Job} {ms : List (CallSite × Rule)} {log : FindingLog} :
      Job.Step a u cancelled j ms j' →
      Step a ⟨cancelled, before ++ (u, j) :: after, log⟩
        ⟨cancelled, before ++ (u, j') :: after, log.reportAll ms⟩

/-- What holds in every state of a run over the given units. -/
structure Inv (a : Analyzer) (units : List SourceUnit) (s : Pool) : Prop where
  units_eq : s.jobs.map Prod.fst = units
  valid : ∀ p ∈ s.jobs, p.2.Valid a p.1 s.cancelled
  log_eq : ∃ ms, Interleaving (s.jobs.map fun p => p.2.reported) ms ∧
    s.log = FindingLog.empty.reportAll ms

variable {a : Analyzer} {units : List SourceUnit} {s t : Pool}

theorem inv_start (a : Analyzer) (units : List SourceUnit) : (start units).Inv a units where
  units_eq := by rw [start, List.map_map]; exact List.map_id units
  valid p hp := by
    obtain ⟨u, -, rfl⟩ := List.mem_map.1 hp
    trivial
  log_eq := by
    refine ⟨[], Interleaving.nil_iff.2 ?_, rfl⟩
    intro q hq
    rw [start, List.map_map] at hq
    obtain ⟨u, -, rfl⟩ := List.mem_map.1 hq
    rfl

/-- **A step keeps the invariant.**  What the job of a step reports goes to the end
of its own queue and to the end of the interleaving. -/
theorem Inv.step (hs : s.Inv a units) (h : Step a s t) : t.Inv a units := by
  cases h with
  | cancel => exact ⟨hs.units_eq, fun p hp => (hs.valid p hp).cancel, hs.log_eq⟩
  | @work cancelled before after u j j' ms log hstep =>
    obtain ⟨hunits, hvalid, written, hwoven, hlog⟩ := hs
    refine ⟨?_, ?_, written ++ ms, ?_, ?_⟩
    · rw [← hunits, List.map_append, List.map_append, List.map_cons, List.map_cons]
    · intro p hp
      rcases List.mem_append.1 hp with hp | hp
      · exact hvalid p (List.mem_append_left _ hp)
      · rcases List.mem_cons.1 hp with rfl | hp
        · exact hstep.valid (hvalid (u, j) (List.mem_append_right _ List.mem_cons_self))
        · exact hvalid p (List.mem_append_right _ (List.mem_cons_of_mem _ hp))
    · rw [List.map_append, List.map_cons] at hwoven ⊢
      rw [hstep.reported_eq]
      exact hwoven.extend ms
    · have hlog' : log = FindingLog.empty.reportAll written := hlog
      rw [FindingLog.reportAll_append, ← hlog']

/-- **A run keeps the invariant.** -/
theorem Inv.run (h : Relation.ReflTransGen (Step a) (start units) s) : s.Inv a units := by
  induction h with
  | refl => exact inv_start a units
  | tail _ hstep ih => exact ih.step hstep

/-! ## The report of a pool -/

/-- The units of jobs that did not skip theirs are not more than the units. -/
theorem Inv.taken_sublist (hs : s.Inv a units) : s.taken.Sublist units := by
  rw [← hs.units_eq]
  exact List.filter_sublist.map Prod.fst

/-- Without a cancellation no job skips its unit. -/
theorem Inv.taken_eq (hs : s.Inv a units) (hcancelled : s.cancelled = false) :
    s.taken = units := by
  have hall : s.jobs.filter (fun p => !p.2.isSkipped) = s.jobs := by
    refine List.filter_eq_self.2 fun p hp => ?_
    have hvalid := hs.valid p hp
    rw [hcancelled] at hvalid
    rw [hvalid.isSkipped_eq_false]
    rfl
  rw [taken, hall, hs.units_eq]

theorem countP_isSkipped (s : Pool) :
    s.jobs.countP (fun p => p.2.isSkipped) = s.jobs.length - s.taken.length := by
  have htaken : s.taken.length = s.jobs.countP fun p => !p.2.isSkipped := by
    rw [taken, List.length_map, List.countP_eq_length_filter]
  have hsum : s.jobs.length =
      s.jobs.countP (fun p => p.2.isSkipped) + s.jobs.countP fun p => !p.2.isSkipped := by
    simpa using List.length_eq_countP_add_countP (l := s.jobs) fun p => p.2.isSkipped
  omega

end Pool

namespace Analyzer

/-- The report for the units that were taken, given how many were skipped and what
has been reported. -/
def reportOn (a : Analyzer) (taken : List SourceUnit) (skipped : Nat)
    (ms : List (CallSite × Rule)) : Report where
  findings := Finding.listing (findingsOf ms)
  failures := Failure.sorted (taken.filterMap a.failure?)
  analyzed := taken.countP fun u => (a.failure? u).isNone
  skipped

end Analyzer

namespace Pool

variable {a : Analyzer} {units : List SourceUnit} {s : Pool} {ms : List (CallSite × Rule)}

/-- What the jobs have reported in the end is what comes of the units taken. -/
theorem interleaving_taken (hvalid : ∀ p ∈ s.jobs, p.2.Valid a p.1 s.cancelled)
    (hended : ∀ p ∈ s.jobs, p.2.Ended)
    (h : Interleaving (s.jobs.map fun p => p.2.reported) ms) :
    Interleaving (s.taken.map a.reports) ms := by
  have hskipped : ∀ p ∈ s.jobs, (!p.2.isSkipped) = false → p.2.reported = [] := by
    intro p hp hskip
    rw [Bool.not_eq_false'] at hskip
    rw [(hvalid p hp).reported_eq (hended p hp), hskip, if_pos rfl]
  rw [taken, List.map_map]
  refine (List.map_congr_left fun p hp => ?_) ▸ (Interleaving.map_filter_iff hskipped).2 h
  obtain ⟨hp, htaken⟩ := List.mem_filter.1 hp
  rw [Bool.not_eq_true'] at htaken
  rw [(hvalid p hp).reported_eq (hended p hp), htaken]
  rfl

/-- The report of a pool whose jobs have ended is that for the units taken. -/
theorem report_eq (hvalid : ∀ p ∈ s.jobs, p.2.Valid a p.1 s.cancelled)
    (hended : ∀ p ∈ s.jobs, p.2.Ended) (hlog : s.log = FindingLog.empty.reportAll ms) :
    s.report = a.reportOn s.taken (s.jobs.length - s.taken.length) ms := by
  have hfailures : s.jobs.filterMap (fun p => p.2.failure?) = s.taken.filterMap a.failure? := by
    rw [taken, List.filterMap_map, List.filterMap_filter]
    refine List.filterMap_congr fun p hp => ?_
    rw [(hvalid p hp).failure?_eq (hended p hp)]
    cases p.2.isSkipped <;> rfl
  have hanalyzed : s.jobs.countP (fun p => p.2.isAnalyzed) =
      s.taken.countP fun u => (a.failure? u).isNone := by
    rw [taken, List.countP_map, List.countP_filter]
    refine List.countP_congr fun p hp => ?_
    rw [(hvalid p hp).isAnalyzed_eq (hended p hp), Bool.and_comm]
    rfl
  rw [report, hfailures, hanalyzed, countP_isSkipped, hlog, FindingLog.results_reportAll,
    Analyzer.reportOn]

end Pool

namespace Analyzer

/-- A run over the units that has come to its end. -/
structure Finishes (a : Analyzer) (units : List SourceUnit) (s : Pool) : Prop where
  run : Relation.ReflTransGen (Pool.Step a) (Pool.start units) s
  ended : ∀ p ∈ s.jobs, p.2.Ended

variable {a : Analyzer} {units : List SourceUnit} {s : Pool}

theorem Finishes.taken_sublist (h : a.Finishes units s) : s.taken.Sublist units :=
  (Pool.Inv.run h.run).taken_sublist

/-- A run that is not cancelled takes all units. -/
theorem Finishes.taken_eq (h : a.Finishes units s) (hcancelled : s.cancelled = false) :
    s.taken = units :=
  (Pool.Inv.run h.run).taken_eq hcancelled

/-- **What a run leaves behind**: the report for the units that were taken, with
their matches in some interleaving. -/
theorem Finishes.exists_interleaving (h : a.Finishes units s) :
    ∃ ms, Interleaving (s.taken.map a.reports) ms ∧
      s.report = a.reportOn s.taken (units.length - s.taken.length) ms := by
  have hinv := Pool.Inv.run h.run
  obtain ⟨ms, hwoven, hlog⟩ := hinv.log_eq
  refine ⟨ms, Pool.interleaving_taken hinv.valid h.ended hwoven, ?_⟩
  rw [Pool.report_eq hinv.valid h.ended hlog, ← hinv.units_eq, List.length_map]

end Analyzer

end ForbiddenCalls
