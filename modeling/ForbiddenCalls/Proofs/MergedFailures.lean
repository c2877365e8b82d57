import ForbiddenCalls.Proofs.LogExample
import ForbiddenCalls.Proofs.SequentialRun

/-!
# Failures from outside a run

The failures of a report are sorted by path when the run ends, and sorted again whenever
failures from outside the run are added: directories that could not be listed, say.  Two
failures of one path tie, in whatever spelling they name it, so it has to be said what
becomes of their order.

`Failure.IsListing` says it without a sort: the listed failures are those that were added, in
the order of the paths, and those of one path stand in the order in which they were added.
There is one such list only (`Failure.isListing_iff`).

* `Report.recordFailures_recordFailures`, `Report.foldl_recordFailures`: failures may be added
  in one batch or in several.
* `Report.isListing_recordFailures`: what a report lists after failures were added.
* `Analyzer.Finishes.recordFailures_nil`: the report of a run lists its own failures already.
* `Report.recordFailures_merges`: the failures of one path in a report to which batches were
  added are those of the run, then the added ones.
-/

namespace ForbiddenCalls

namespace Failure

variable {listed added : List Failure}

/-- Whether a failure is one of a path, in any spelling. -/
def isAt (p : FilePath) (f : Failure) : Bool := p.same f.file

/-- A listing of failures: they are in the order of their paths, and the failures of one path
are in the order in which they were added. -/
structure IsListing (listed added : List Failure) : Prop where
  perm : listed.Perm added
  ordered : listed.Pairwise fun f g => f.file.order g.file ≠ .gt
  stable : ∀ p, listed.filter (isAt p) = added.filter (isAt p)

/-- Failures tie when they are failures of one path. -/
theorem tied_order (f : Failure) : tied order f = isAt f.file := by
  funext g
  have htie : order f g = .eq ↔ f.file.components = g.file.components := FilePath.order_eq_eq
  rw [Bool.eq_iff_iff, tied_iff, htie, isAt, FilePath.same, beq_iff_eq]

theorem isLE_order_iff {f g : Failure} : (order f g).isLE = true ↔ f.file.order g.file ≠ .gt := by
  show (f.file.order g.file).isLE = true ↔ _
  cases f.file.order g.file <;> simp

/-- The failures of one path are known by any failure of that path. -/
theorem filter_isAt_sorted (p : FilePath) (fs : List Failure) :
    (sorted fs).filter (isAt p) = fs.filter (isAt p) := by
  have hsorted : sorted fs = sortBy order fs := rfl
  have htied := tied_order ⟨p, none, ""⟩
  rw [hsorted, ← htied, filter_tied_sortBy]

theorem isListing_sorted (fs : List Failure) : IsListing (sorted fs) fs where
  perm := perm_sortBy order fs
  ordered := (pairwise_sortBy order fs).imp fun h => isLE_order_iff.1 h
  stable p := filter_isAt_sorted p fs

/-- **There is one listing of failures**, and sorting finds it. -/
theorem isListing_iff : IsListing listed added ↔ listed = sorted added := by
  constructor
  · intro h
    have hlisted : listed.Pairwise fun f g => (order f g).isLE = true :=
      h.ordered.imp fun hle => isLE_order_iff.2 hle
    refine eq_of_filter_tied order hlisted (pairwise_sortBy order added) fun x => ?_
    rw [tied_order, h.stable]
    exact (filter_isAt_sorted x.file added).symm
  · rintro rfl
    exact isListing_sorted added

end Failure

namespace Report

open Failure (isAt IsListing)

variable {r : Report} {a b : List Failure}

/-- **Failures may be added in one batch or in two.** -/
theorem recordFailures_recordFailures (r : Report) (a b : List Failure) :
    (r.recordFailures a).recordFailures b = r.recordFailures (a ++ b) := by
  have hfailures : Failure.sorted (Failure.sorted (r.failures ++ a) ++ b) =
      Failure.sorted (r.failures ++ a ++ b) := sortBy_sortBy_append Failure.order _ b
  rw [recordFailures, recordFailures, recordFailures, hfailures, List.append_assoc]

/-- **Any number of batches may be added as one.**  That none at all are added shows only in a
report whose failures are not sorted. -/
theorem foldl_recordFailures (h : r.recordFailures [] = r) (batches : List (List Failure)) :
    batches.foldl recordFailures r = r.recordFailures batches.flatten := by
  have hrun : ∀ first, batches.foldl recordFailures (r.recordFailures first) =
      r.recordFailures (first ++ batches.flatten) := by
    induction batches with
    | nil =>
      intro first
      rw [List.foldl_nil, List.flatten_nil, List.append_nil]
    | cons batch batches ih =>
      intro first
      rw [List.foldl_cons, recordFailures_recordFailures, ih, List.flatten_cons, List.append_assoc]
  have hall := hrun []
  rwa [h, List.nil_append] at hall

/-- What a report lists after failures were added. -/
theorem isListing_recordFailures (r : Report) (fs : List Failure) :
    IsListing (r.recordFailures fs).failures (r.failures ++ fs) :=
  Failure.isListing_sorted (r.failures ++ fs)

end Report

namespace Analyzer

variable {a : Analyzer} {units : List SourceUnit} {s : Pool}

/-- The report of a run with added failures lists those of the units that were taken, then the
added ones. -/
theorem Finishes.isListing_recordFailures (h : a.Finishes units s) (fs : List Failure) :
    Failure.IsListing (s.report.recordFailures fs).failures
      (s.taken.filterMap a.failure? ++ fs) := by
  obtain ⟨ms, -, hreport⟩ := h.exists_interleaving
  have hfailures : s.report.failures = sortBy Failure.order (s.taken.filterMap a.failure?) := by
    rw [hreport, reportOn]
    rfl
  refine Failure.isListing_iff.2 ?_
  rw [Report.recordFailures, hfailures]
  exact sortBy_sortBy_append Failure.order _ fs

/-- The report of a run is sorted already. -/
theorem Finishes.recordFailures_nil (h : a.Finishes units s) :
    s.report.recordFailures [] = s.report := by
  obtain ⟨ms, -, hreport⟩ := h.exists_interleaving
  have hsame : (s.report.recordFailures []).failures = s.report.failures := by
    rw [Failure.isListing_iff.1 (h.isListing_recordFailures []), List.append_nil, hreport, reportOn]
  calc s.report.recordFailures []
      = { s.report with failures := (s.report.recordFailures []).failures } := rfl
    _ = s.report := by rw [hsame]

end Analyzer

namespace Report

open Failure (isAt IsListing)

/-- **Adding failures is a stable merge.**  Two batches may be added as one.  The failures are
those that were there and the added ones, by path, and those of one path in the order in which
they were added; the findings and the counts stay.  So after any number of batches the report
of a run, with any schedule and cancelled or not, lists for every path the failures of the run
in the order of its units, then the added ones in theirs. -/
theorem recordFailures_merges (r : Report) (fs gs : List Failure) :
    (r.recordFailures fs).recordFailures gs = r.recordFailures (fs ++ gs) ∧
    IsListing (r.recordFailures fs).failures (r.failures ++ fs) ∧
    r.recordFailures fs = { r with failures := (r.recordFailures fs).failures } ∧
    ∀ (a : Analyzer) (units : List SourceUnit) (s : Pool) (batches : List (List Failure)),
      a.Finishes units s →
        let merged := batches.foldl recordFailures s.report
        merged = { s.report with failures := merged.failures } ∧
        IsListing merged.failures (s.taken.filterMap a.failure? ++ batches.flatten) ∧
        ∀ p, merged.failures.filter (isAt p) =
          s.report.failures.filter (isAt p) ++ batches.flatten.filter (isAt p) := by
  refine ⟨recordFailures_recordFailures r fs gs, isListing_recordFailures r fs, rfl, ?_⟩
  intro a units s batches h
  have hmerged : batches.foldl recordFailures s.report =
      s.report.recordFailures batches.flatten := foldl_recordFailures h.recordFailures_nil batches
  dsimp only
  rw [hmerged]
  refine ⟨rfl, h.isListing_recordFailures batches.flatten, fun p => ?_⟩
  rw [(isListing_recordFailures s.report batches.flatten).stable p, List.filter_append]

/-- The failure of a unit that no adapter of the example is responsible for. -/
def unsupportedNotes : Failure :=
  ⟨⟨"src/notes.txt"⟩, none, "unsupported language for extension `.txt`"⟩

/-- The instance of a unit that fails and two batches, where one of the added failures names the
path of the unit in another spelling. -/
theorem recordFailures_merges_logUnit :
    ∃ s, logAnalyzer.Finishes [logUnit "src/notes.txt", logUnit "A.java"] s ∧
      let merged := [[⟨⟨"src//notes.txt"⟩, none, "locked"⟩], [⟨⟨"lib"⟩, none, "locked"⟩]].foldl
        recordFailures s.report
      merged.failures.filter (isAt ⟨"src/notes.txt"⟩) =
        [unsupportedNotes, ⟨⟨"src//notes.txt"⟩, none, "locked"⟩] := by
  obtain ⟨s, hs, hcancelled, -⟩ := Analyzer.yields_analyze logAnalyzer
    [logUnit "src/notes.txt", logUnit "A.java"]
  obtain ⟨-, -, -, hrun⟩ := recordFailures_merges {} [] []
  obtain ⟨-, hlisting, -⟩ := hrun logAnalyzer _ s
    [[⟨⟨"src//notes.txt"⟩, none, "locked"⟩], [⟨⟨"lib"⟩, none, "locked"⟩]] hs
  have hown : s.taken.filterMap logAnalyzer.failure? = [unsupportedNotes] := by
    rw [hs.taken_eq hcancelled]
    decide +kernel
  refine ⟨s, hs, ?_⟩
  dsimp only at hlisting ⊢
  rw [hlisting.stable, hown]
  decide +kernel

end Report

end ForbiddenCalls
