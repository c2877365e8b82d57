import ForbiddenCalls.Proofs.LogExample
import ForbiddenCalls.Proofs.SequentialRun
import ForbiddenCalls.Syntax.Language

/-!
# Independence of the schedule

Workers that share a log may report in any order, and the log keeps the first
finding of each key and settles ties by the order of the reports.  All the same the
report of a run depends neither on the schedule nor on the order of the units, so
long as the units have different paths and an adapter finds calls in the file of
its unit only, as those for languages do (`located_of_languages`).

The reason is that findings that share a key, or tie, are in one file.  What is
reported about one file comes from one worker, in its own order, so the reports
about a file are the same in every run (`filter_findingsOf_eq`), and the listing is
known by these (`Finding.listing_congr`).
-/

namespace ForbiddenCalls

/-- An adapter for languages finds calls in the file of the unit. -/
theorem Language.file_of_traverse {ls : List Language} {u : SourceUnit} {text : String}
    {calls : List CallSite} {c : CallSite} (h : (Language.adapter ls).traverse u text = .ok calls)
    (hc : c ∈ calls) : c.location.file = u.path := by
  obtain ⟨l, -, hcalls⟩ := exists_claimant_of_traverse h
  obtain ⟨-, rfl⟩ := callSites_eq_ok_iff.1 hcalls
  obtain ⟨raw, -, rfl⟩ := List.mem_map.1 hc
  rfl

namespace Analyzer

variable {a : Analyzer} {u : SourceUnit} {units units' : List SourceUnit}
  {ms : List (CallSite × Rule)} {r : Report}

/-- The adapters find the calls of a unit in its file. -/
def Located (a : Analyzer) (u : SourceUnit) : Prop :=
  ∀ d ∈ a.adapters, ∀ text calls, u.text = .ok text → d.traverse u text = .ok calls →
    ∀ c ∈ calls, c.location.file.components = u.path.components

theorem located_of_languages (h : ∀ d ∈ a.adapters, ∃ ls, d = Language.adapter ls)
    (u : SourceUnit) : a.Located u := by
  intro d hd text calls _ hcalls c hc
  obtain ⟨ls, rfl⟩ := h d hd
  rw [Language.file_of_traverse hcalls hc]

/-- Units with pairwise different paths. -/
def DistinctPaths (units : List SourceUnit) : Prop :=
  units.Pairwise fun u v => u.path.components ≠ v.path.components

theorem DistinctPaths.perm (h : DistinctPaths units) (hperm : units'.Perm units) :
    DistinctPaths units' :=
  List.Pairwise.perm h hperm.symm Ne.symm

/-! ## What is reported about a file -/

theorem components_of_mem_reports (h : a.Located u) {m : CallSite × Rule} (hm : m ∈ a.reports u) :
    m.1.location.file.components = u.path.components := by
  obtain ⟨c, rule⟩ := m
  obtain ⟨raw, type, hforbids, rfl⟩ := mem_reports_iff.1 hm
  obtain ⟨d, calls, hanalyzed, hraw, -⟩ := hforbids.found
  obtain ⟨text, htext, hcalls⟩ := hanalyzed.traversed
  exact h d (List.mem_of_find?_eq_some hanalyzed.responsible) text calls htext hcalls raw hraw

/-- The matches that are reported about a file. -/
def aboutFile (file : List Component) (m : CallSite × Rule) : Bool :=
  m.1.location.file.components == file

theorem filter_findingsOf (file : List Component) (ms : List (CallSite × Rule)) :
    (findingsOf ms).filter (Finding.inFile file) = findingsOf (ms.filter (aboutFile file)) :=
  List.filter_map

/-- At most one unit has matches about a file. -/
theorem pairwise_filter_reports (hpaths : DistinctPaths units)
    (hlocated : ∀ u ∈ units, a.Located u) (file : List Component) :
    ((units.map a.reports).map (List.filter (aboutFile file))).Pairwise
      fun q r => q = [] ∨ r = [] := by
  have hfile : ∀ u ∈ units, (a.reports u).filter (aboutFile file) ≠ [] →
      u.path.components = file := by
    intro u hu hne
    obtain ⟨m, hm⟩ := List.exists_mem_of_ne_nil _ hne
    obtain ⟨hm, hmfile⟩ := List.mem_filter.1 hm
    rw [← components_of_mem_reports (hlocated u hu) hm]
    exact eq_of_beq hmfile
  rw [List.map_map, List.pairwise_map]
  refine List.Pairwise.imp_of_mem (fun {u v} hu hv hne => ?_) hpaths
  by_contra hboth
  rw [not_or] at hboth
  exact hne ((hfile u hu hboth.1).trans (hfile v hv hboth.2).symm)

/-- The reports about a file are the same in every run. -/
theorem filter_findingsOf_eq (hpaths : DistinctPaths units)
    (hlocated : ∀ u ∈ units, a.Located u) (hperm : units'.Perm units)
    (h : Interleaving (units'.map a.reports) ms) (file : List Component) :
    (findingsOf ms).filter (Finding.inFile file) =
      (findingsOf (units.flatMap a.reports)).filter (Finding.inFile file) := by
  have hone := pairwise_filter_reports hpaths hlocated file
  have hone' := pairwise_filter_reports (hpaths.perm hperm)
    (fun u hu => hlocated u (hperm.mem_iff.1 hu)) file
  have hmatches : ms.filter (aboutFile file) =
      (units.flatMap a.reports).filter (aboutFile file) := by
    calc ms.filter (aboutFile file)
        = ((units'.map a.reports).map (List.filter (aboutFile file))).flatten :=
          (h.filter (aboutFile file)).eq_flatten hone'
      _ = ((units.map a.reports).map (List.filter (aboutFile file))).flatten :=
          Interleaving.flatten_eq_of_perm ((hperm.map a.reports).map _) hone'
      _ = (units.flatMap a.reports).filter (aboutFile file) := by
          rw [List.flatMap_def, List.filter_flatten]
  rw [filter_findingsOf, filter_findingsOf, hmatches]

/-! ## The report -/

/-- Failures of units with different paths do not tie. -/
theorem sorted_failures_eq (hpaths : DistinctPaths units) (hperm : units'.Perm units) :
    Failure.sorted (units'.filterMap a.failure?) = Failure.sorted (units.filterMap a.failure?) := by
  have hne : (units'.filterMap a.failure?).Pairwise fun f g => Failure.order f g ≠ .eq := by
    rw [List.pairwise_filterMap]
    refine (hpaths.perm hperm).imp fun {u v} hne f hf g hg heq => hne ?_
    rw [← (failsWith_of_failure? hf).file_eq, ← (failsWith_of_failure? hg).file_eq]
    exact FilePath.order_eq_eq.1 heq
  exact sortBy_eq_of_perm Failure.order (hperm.filterMap a.failure?) hne

/-- **The report depends neither on the schedule nor on the order of the units.**
Let the units have pairwise different paths, and let the adapters find the calls of
each in its file.  Then the report that a run which is not cancelled ends with, over
the units in any order and with any schedule, is the one of the sequential run. -/
theorem yields_iff_eq_analyze (hpaths : DistinctPaths units)
    (hlocated : ∀ u ∈ units, a.Located u) (hperm : units'.Perm units) :
    a.Yields units' r ↔ r = a.analyze units := by
  have hunique : ∀ r, a.Yields units' r → r = a.analyze units := by
    intro r hr
    obtain ⟨ms, hwoven, rfl⟩ := yields_iff.1 hr
    rw [analyze_eq, reportOn, reportOn, sorted_failures_eq hpaths hperm,
      Finding.listing_congr (filter_findingsOf_eq hpaths hlocated hperm hwoven),
      hperm.countP_eq]
  constructor
  · exact hunique r
  · rintro rfl
    have hyields := a.yields_analyze units'
    rwa [hunique _ hyields] at hyields

/-- The instance of two units of the small analyzer in both orders. -/
theorem yields_iff_eq_analyze_logUnit :
    DistinctPaths [logUnit "A.java", logUnit "B.java"] ∧
    logAnalyzer.Yields [logUnit "B.java", logUnit "A.java"]
      (logAnalyzer.analyze [logUnit "A.java", logUnit "B.java"]) := by
  have hpaths : DistinctPaths [logUnit "A.java", logUnit "B.java"] := by
    refine List.pairwise_pair.2 ?_
    decide +kernel
  have hlocated : ∀ u ∈ [logUnit "A.java", logUnit "B.java"], logAnalyzer.Located u := by
    intro u _ d hd text calls _ hcalls c hc
    obtain rfl := List.mem_singleton.1 hd
    rw [file_of_traverse_logAdapter hcalls hc]
  exact ⟨hpaths, (yields_iff_eq_analyze hpaths hlocated (List.Perm.swap _ _ [])).2 rfl⟩

end Analyzer

end ForbiddenCalls
