import ForbiddenCalls.Proofs.LogExample
import ForbiddenCalls.Proofs.SequentialRun
import Mathlib.Data.List.Forall2

/-!
# Units that fail

A unit that cannot be analyzed does not stop the run and leaves no trace in the
findings.  It is counted once, as a failure, and so every unit of a run is counted
once: as analyzed, as failed or as skipped.

A worker looks at the flag first.  After the cancellation a unit is skipped whether
it could have been analyzed or not, so what is said about failures is said about
the units that were taken; without a cancellation these are all units.

* `Records`: what the failure of a unit says.
* `Finishes.accounts`: the counts, the failures and the findings of a run.
-/

namespace ForbiddenCalls

namespace Analyzer

variable {a : Analyzer} {u : SourceUnit} {f : Failure} {units taken : List SourceUnit}
  {s : Pool}

/-! ## The failure of a unit -/

/-- The text of the unit is not over the limit, and the adapter that is responsible
for it finds a syntax error. -/
def Malformed (a : Analyzer) (u : SourceUnit) : Prop :=
  (∃ size, u.size = .ok size ∧ size ≤ a.maxFileBytes) ∧
    ∃ line column reason, a.Refused u (.malformed line column reason)

/-- The failure for a unit: it is that of the first reason why the unit cannot be
analyzed, it names the path of the unit, and it has a place, which is in that path,
exactly for a syntax error. -/
structure Records (a : Analyzer) (u : SourceUnit) (f : Failure) : Prop where
  failsWith : a.FailsWith u f
  file_eq : f.file = u.path
  location_file : ∀ l, f.location = some l → l.file = u.path
  isSome_location_iff : f.location.isSome = true ↔ a.Malformed u

theorem Unsupported.not_refused {e : ParseError} (h : a.Unsupported u) : ¬ a.Refused u e := by
  rintro ⟨d, -, hd, -, -⟩
  exact h.find?_ne_some d hd

theorem Refused.unique {e e' : ParseError} (h : a.Refused u e) (h' : a.Refused u e') : e = e' := by
  obtain ⟨d, text, hd, htext, he⟩ := h
  obtain ⟨d', text', hd', htext', he'⟩ := h'
  obtain rfl := Option.some.inj (hd.symm.trans hd')
  obtain rfl := Except.ok.inj (htext.symm.trans htext')
  exact Except.error.inj (he.symm.trans he')

/-- A failure with a place is that of a syntax error, and the other way round. -/
theorem FailsWith.isSome_location_iff (h : a.FailsWith u f) :
    f.location.isSome = true ↔ a.Malformed u := by
  cases h with
  | unsupported hunsupported =>
    refine iff_of_false Bool.false_ne_true ?_
    rintro ⟨-, line, column, reason, hrefused⟩
    exact absurd hrefused hunsupported.not_refused
  | unmeasured _ hsize =>
    refine iff_of_false Bool.false_ne_true ?_
    rintro ⟨⟨size, hsize', -⟩, -⟩
    exact nomatch hsize.symm.trans hsize'
  | oversized _ hsize hover =>
    refine iff_of_false Bool.false_ne_true ?_
    rintro ⟨⟨size', hsize', hfits⟩, -⟩
    rw [Except.ok.inj (hsize.symm.trans hsize')] at hover
    omega
  | unread _ _ _ htext =>
    refine iff_of_false Bool.false_ne_true ?_
    rintro ⟨-, line, column, reason, d, text, -, htext', -⟩
    exact nomatch htext.symm.trans htext'
  | @malformed line column reason hsize hfits hrefused =>
    obtain ⟨size, hsize⟩ := hsize
    have hle : size ≤ a.maxFileBytes := Nat.not_lt.1 fun hover => hfits ⟨size, hsize, hover⟩
    exact ⟨fun _ => ⟨⟨size, hsize, hle⟩, line, column, reason, hrefused⟩, fun _ => rfl⟩
  | refused _ _ hrefused hnone =>
    refine iff_of_false Bool.false_ne_true ?_
    rintro ⟨-, line, column, reason, hrefused'⟩
    rw [hrefused.unique hrefused'] at hnone
    exact nomatch hnone

theorem FailsWith.records (h : a.FailsWith u f) : a.Records u f where
  failsWith := h
  file_eq := h.file_eq
  location_file l hl := by
    cases h with
    | malformed _ _ _ => exact Option.some.inj hl ▸ rfl
    | _ => exact nomatch hl
  isSome_location_iff := h.isSome_location_iff

/-- Among the units, each that fails has its failure, and the others have none. -/
theorem forall₂_records (a : Analyzer) (us : List SourceUnit) :
    List.Forall₂ a.Records (us.filter fun u => a.Fails u) (us.filterMap a.failure?) := by
  induction us with
  | nil => exact List.Forall₂.nil
  | cons u us ih =>
    cases h : a.failure? u with
    | none =>
      have hok : ¬ a.Fails u := fun hfails => by
        rw [← isSome_failure?_iff, h] at hfails
        exact nomatch hfails
      rwa [List.filter_cons_of_neg (by simpa using hok), List.filterMap_cons_none h]
    | some f =>
      have hfails : a.Fails u := isSome_failure?_iff.1 (by rw [h]; rfl)
      rw [List.filter_cons_of_pos (by simpa using hfails), List.filterMap_cons_some h]
      exact List.Forall₂.cons (failsWith_of_failure? h).records ih

/-- Every unit is analyzed or has a failure. -/
theorem countP_add_length_filterMap (a : Analyzer) (us : List SourceUnit) :
    us.countP (fun u => (a.failure? u).isNone) + (us.filterMap a.failure?).length = us.length := by
  induction us with
  | nil => rfl
  | cons u us ih =>
    cases h : a.failure? u with
    | none =>
      rw [List.countP_cons_of_pos (by rw [h]; rfl), List.filterMap_cons_none h, List.length_cons]
      omega
    | some f =>
      rw [List.countP_cons_of_neg (by simp [h]), List.filterMap_cons_some h, List.length_cons,
        List.length_cons]
      omega

/-! ## Leaving out the units that fail -/

/-- The units that do not fail. -/
def analyzable (a : Analyzer) (us : List SourceUnit) : List SourceUnit :=
  us.filter fun u => ¬ a.Fails u

theorem reports_of_not_analyzable {us : List SourceUnit} :
    ∀ u ∈ us, (decide ¬ a.Fails u) = false → a.reports u = [] := by
  intro u _ h
  exact reports_of_fails (Decidable.not_not.1 (of_decide_eq_false h))

/-- The matches of the units interleave like those of the units that do not fail. -/
theorem interleaving_analyzable_iff {us : List SourceUnit} {ms : List (CallSite × Rule)} :
    Interleaving ((a.analyzable us).map a.reports) ms ↔
      Interleaving (us.map a.reports) ms :=
  Interleaving.map_filter_iff reports_of_not_analyzable

theorem flatMap_reports_analyzable (us : List SourceUnit) :
    (a.analyzable us).flatMap a.reports = us.flatMap a.reports := by
  induction us with
  | nil => rfl
  | cons u us ih =>
    by_cases h : a.Fails u
    · rw [analyzable, List.filter_cons_of_neg (by simpa using h), List.flatMap_cons,
        reports_of_fails h, ← ih]
      rfl
    · rw [analyzable, List.filter_cons_of_pos (by simpa using h), List.flatMap_cons,
        List.flatMap_cons, ← ih]
      rfl

/-- The findings that runs without a cancellation can end with. -/
theorem exists_yields_iff {fs : List Finding} :
    (∃ r, a.Yields units r ∧ r.findings = fs) ↔
      ∃ ms, Interleaving (units.map a.reports) ms ∧ Finding.listing (findingsOf ms) = fs := by
  constructor
  · rintro ⟨r, hr, rfl⟩
    obtain ⟨ms, hwoven, rfl⟩ := yields_iff.1 hr
    exact ⟨ms, hwoven, rfl⟩
  · rintro ⟨ms, hwoven, rfl⟩
    exact ⟨_, yields_iff.2 ⟨ms, hwoven, rfl⟩, rfl⟩

/-! ## The accounts of a run -/

/-- **The accounts of a run**, with any schedule and cancelled at any time or not at
all.  Every unit is counted once.  Of the units that were taken, those that fail have
one failure each, and the findings are those of a run over the others; without a
cancellation all units are taken.  Runs over the units, and the sequential one among
them, find what runs over the units that do not fail find. -/
theorem Finishes.accounts (h : a.Finishes units s) :
    s.report.analyzed + s.report.failures.length + s.report.skipped = units.length ∧
    (s.taken.Sublist units ∧ s.taken.length + s.report.skipped = units.length ∧
      (s.cancelled = false → s.taken = units)) ∧
    (∃ fs, fs.Perm s.report.failures ∧
      List.Forall₂ a.Records (s.taken.filter fun u => a.Fails u) fs) ∧
    (∃ r, a.Yields (a.analyzable s.taken) r ∧ r.findings = s.report.findings) ∧
    (∀ fs, (∃ r, a.Yields units r ∧ r.findings = fs) ↔
      ∃ r, a.Yields (a.analyzable units) r ∧ r.findings = fs) ∧
    (a.analyze units).findings = (a.analyze (a.analyzable units)).findings := by
  obtain ⟨ms, hwoven, hreport⟩ := h.exists_interleaving
  have hle := h.taken_sublist.length_le
  have hfailures : s.report.failures.Perm (s.taken.filterMap a.failure?) := by
    rw [hreport]
    exact perm_sortBy Failure.order _
  have hcounts : s.report.analyzed + s.report.failures.length = s.taken.length := by
    rw [hfailures.length_eq, hreport]
    exact countP_add_length_filterMap a s.taken
  have hskipped : s.report.skipped = units.length - s.taken.length := by
    rw [hreport, reportOn]
  refine ⟨by omega, ⟨h.taken_sublist, by omega, h.taken_eq⟩, ?_, ?_, ?_, ?_⟩
  · exact ⟨_, hfailures.symm, forall₂_records a s.taken⟩
  · refine exists_yields_iff.2 ⟨ms, interleaving_analyzable_iff.2 hwoven, ?_⟩
    rw [hreport, reportOn]
  · intro fs
    simp only [exists_yields_iff, interleaving_analyzable_iff]
  · rw [analyze_eq, analyze_eq, reportOn, reportOn, flatMap_reports_analyzable]

/-- The instance of a unit with a call and one that no adapter is responsible for. -/
theorem accounts_logUnit :
    ∃ s, logAnalyzer.Finishes [logUnit "A.java", logUnit "notes.txt"] s ∧ s.cancelled = false ∧
      s.report.analyzed + s.report.failures.length + s.report.skipped = 2 ∧
      ∃ fs, fs.Perm s.report.failures ∧ List.Forall₂ logAnalyzer.Records
        ([logUnit "A.java", logUnit "notes.txt"].filter fun u => logAnalyzer.Fails u) fs := by
  obtain ⟨s, hs, hcancelled, -⟩ := yields_analyze logAnalyzer
    [logUnit "A.java", logUnit "notes.txt"]
  obtain ⟨hcount, ⟨-, -, hall⟩, hfailures, -⟩ := hs.accounts
  rw [hall hcancelled] at hfailures
  exact ⟨s, hs, hcancelled, hcount, hfailures⟩

/-- **A unit that is skipped has no failure.**  No adapter is responsible for the
unit, but the run is cancelled before it takes it. -/
theorem failures_skipped_logUnit :
    logAnalyzer.Unsupported (logUnit "notes.txt") ∧
      logAnalyzer.analyzeWith [logUnit "notes.txt"] true .never = { skipped := 1 } := by
  refine ⟨?_, ?_⟩
  · intro d hd
    obtain rfl := List.mem_singleton.1 hd
    decide +kernel
  · simp [analyzeWith, step, RunState.report, FindingLog.results, FindingLog.empty, Failure.sorted]

end Analyzer

end ForbiddenCalls
