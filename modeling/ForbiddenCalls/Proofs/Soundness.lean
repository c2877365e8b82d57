import ForbiddenCalls.Proofs.LogExample
import ForbiddenCalls.Proofs.SequentialRun

/-!
# What a run finds

The findings of a run are the forbidden calls of its units: none is invented and
none is lost, whatever the schedule was.  Two calls with the same rule and place
are one finding, which has the severity of the rule.

The reference is `Analyzer.Forbids`, which compares every call of a unit with every
active rule.  The way from there to the report leads through the index of the
registry, the checks of the matcher, the log and the sort; `mem_reports_iff` has
dealt with the first two, and `Finding.mem_map_key_listing` deals with the others.
-/

namespace ForbiddenCalls

namespace Analyzer

variable {a : Analyzer} {units : List SourceUnit} {r : Report}

/-- The key of the finding for a call. -/
def keyOf (c : CallSite) (rule : Rule) : Finding.Key := ⟨rule.id.text, c.location.place⟩

/-- Active rules with the same id are the same rule. -/
theorem eq_of_id_eq {rule rule' : Rule} (h : rule ∈ a.registry.activeRules)
    (h' : rule' ∈ a.registry.activeRules) (hid : rule.id.text = rule'.id.text) : rule = rule' :=
  List.inj_on_of_nodup_map a.registry.nodup_ids h h' (RuleId.ext hid)

/-- The reported findings of some units are those of their forbidden calls. -/
theorem mem_findingsOf_iff {ms : List (CallSite × Rule)} {f : Finding}
    (h : Interleaving (units.map a.reports) ms) :
    f ∈ findingsOf ms ↔ ∃ u ∈ units, ∃ c rule type, a.Forbids u c rule type ∧
      f = rule.finding { c with owner := .resolved type } := by
  have hmem : ∀ m, m ∈ ms ↔ ∃ u ∈ units, m ∈ a.reports u := by
    intro m
    rw [h.perm_flatten.mem_iff, ← List.flatMap_def, List.mem_flatMap]
  rw [findingsOf, List.mem_map]
  constructor
  · rintro ⟨⟨c, rule⟩, hm, rfl⟩
    obtain ⟨u, hu, hreports⟩ := (hmem _).1 hm
    obtain ⟨raw, type, hforbids, rfl⟩ := mem_reports_iff.1 hreports
    exact ⟨u, hu, raw, rule, type, hforbids, rfl⟩
  · rintro ⟨u, hu, raw, rule, type, hforbids, rfl⟩
    exact ⟨_, (hmem _).2 ⟨u, hu, mem_reports_iff.2 ⟨raw, type, hforbids, rfl⟩⟩, rfl⟩

/-- A call whose owner is not known is not forbidden. -/
theorem not_forbids_of_unresolved {u : SourceUnit} {d : Adapter} {calls : List CallSite}
    {c : CallSite} {rule : Rule} {type : String} (h : a.Analyzed u d calls)
    (hunresolved : d.resolveOwner c = .unresolved) : ¬ a.Forbids u c rule type := by
  intro hforbids
  obtain ⟨d', calls', h', -, howner⟩ := hforbids.found
  obtain ⟨rfl, -⟩ := h.unique h'
  exact nomatch hunresolved.symm.trans howner

/-- **Soundness and completeness.**  In every run over the units that is not
cancelled, the sequential one among them (`yields_analyze`), the keys of the findings
are those of the forbidden calls.  For every forbidden call there is exactly one
finding with its key, and it has the severity of the rule.  Every finding is that of
a forbidden call, and a call whose owner is not known is none. -/
theorem findings_iff_forbids (h : a.Yields units r) :
    (∀ key, key ∈ r.findings.map Finding.key ↔
      ∃ u ∈ units, ∃ c rule type, a.Forbids u c rule type ∧ key = keyOf c rule) ∧
    (∀ u ∈ units, ∀ c rule type, a.Forbids u c rule type →
      ∃ f, r.findings.filter (fun g => g.key = keyOf c rule) = [f] ∧
        f.severity = rule.severity) ∧
    (∀ f ∈ r.findings, ∃ u ∈ units, ∃ c rule type, a.Forbids u c rule type ∧
      f = rule.finding { c with owner := .resolved type }) ∧
    (∀ u d calls, a.Analyzed u d calls → ∀ c ∈ calls, d.resolveOwner c = .unresolved →
      ∀ rule type, ¬ a.Forbids u c rule type) := by
  obtain ⟨ms, hwoven, rfl⟩ := yields_iff.1 h
  have hfound : ∀ f ∈ Finding.listing (findingsOf ms), ∃ u ∈ units, ∃ c rule type,
      a.Forbids u c rule type ∧ f = rule.finding { c with owner := .resolved type } :=
    fun f hf => (mem_findingsOf_iff hwoven).1 (Finding.mem_of_mem_firsts (Finding.mem_listing.1 hf))
  have hkeys : ∀ key, key ∈ (Finding.listing (findingsOf ms)).map Finding.key ↔
      ∃ u ∈ units, ∃ c rule type, a.Forbids u c rule type ∧ key = keyOf c rule := by
    intro key
    rw [Finding.mem_map_key_listing, List.mem_map]
    constructor
    · rintro ⟨f, hf, rfl⟩
      obtain ⟨u, hu, c, rule, type, hforbids, rfl⟩ := (mem_findingsOf_iff hwoven).1 hf
      exact ⟨u, hu, c, rule, type, hforbids, rfl⟩
    · rintro ⟨u, hu, c, rule, type, hforbids, rfl⟩
      exact ⟨_, (mem_findingsOf_iff hwoven).2 ⟨u, hu, c, rule, type, hforbids, rfl⟩, rfl⟩
  refine ⟨hkeys, ?_, hfound, fun u d calls hd c _ hc rule type => not_forbids_of_unresolved hd hc⟩
  intro u hu c rule type hforbids
  obtain ⟨f, hf, hkey⟩ := List.mem_map.1 ((hkeys _).2 ⟨u, hu, c, rule, type, hforbids, rfl⟩)
  refine ⟨f, ?_, ?_⟩
  · rw [← hkey]
    exact filter_eq_singleton (Finding.nodup_listing _) hf
  · -- the finding may be that of another call, but its rule has the same id
    obtain ⟨u', -, c', rule', type', hforbids', rfl⟩ := hfound f hf
    have hid : rule'.id.text = rule.id.text := congrArg Finding.Key.ruleId hkey
    rw [← eq_of_id_eq hforbids'.active hforbids.active hid]
    rfl

/-- The instance of the small analyzer and one unit, whose call is found. -/
theorem findings_iff_forbids_logUnit :
    logAnalyzer.Yields [logUnit "A.java"] (logAnalyzer.analyze [logUnit "A.java"]) ∧
    (∀ key, key ∈ (logAnalyzer.analyze [logUnit "A.java"]).findings.map Finding.key ↔
      ∃ u ∈ [logUnit "A.java"], ∃ c rule type,
        logAnalyzer.Forbids u c rule type ∧ key = keyOf c rule) ∧
    ∃ f, (logAnalyzer.analyze [logUnit "A.java"]).findings.filter
        (fun g => g.key = keyOf (logCall ⟨"A.java"⟩ 5) logRule) = [f] ∧ f.severity = .error := by
  have hyields := yields_analyze logAnalyzer [logUnit "A.java"]
  obtain ⟨hkeys, honce, -, -⟩ := findings_iff_forbids hyields
  have hforbids := @forbids_logUnit "A.java" (by decide +kernel)
  exact ⟨hyields, hkeys, honce _ List.mem_cons_self _ _ _ hforbids⟩

end Analyzer

end ForbiddenCalls
