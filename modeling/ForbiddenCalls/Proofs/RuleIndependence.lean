import ForbiddenCalls.Proofs.LogExample
import ForbiddenCalls.Proofs.RuleDependence

/-!
# Rules do not interfere

The rules of an analyzer share the index by methods, the set of keys that the log
has seen and one sort of all findings.  All the same, what is found for a rule is
what would be found if it were the only one, and the order of registration does not
show.

The reason is that a key names its rule and that findings of different rules never
tie.  So the listing is known by what was reported for each rule
(`Finding.listing_congr_ruleId`), a selection by rule may be made before the listing
(`Finding.listing_filter`), and the rules with a given id are the same in every order
(`filter_id_of_perm`).
-/

namespace ForbiddenCalls

variable {rules rules' : List Rule} {rule : Rule}

theorem nodup_id_texts (hids : (rules.map Rule.id).Nodup) :
    (rules.map fun r => r.id.text).Nodup := by
  have htexts := hids.map fun _ _ h => RuleId.ext h
  rwa [List.map_map] at htexts

/-- Among rules with pairwise different ids, one is known by its id. -/
theorem filter_id_eq_singleton (hids : (rules.map Rule.id).Nodup) (hrule : rule ∈ rules) :
    rules.filter (fun r => r.id.text == rule.id.text) = [rule] :=
  filter_eq_singleton (nodup_id_texts hids) hrule

/-- The rules with a given id do not depend on the order of the rules. -/
theorem filter_id_of_perm (hids : (rules.map Rule.id).Nodup) (hperm : rules'.Perm rules)
    (id : String) :
    rules'.filter (fun r => r.id.text == id) = rules.filter fun r => r.id.text == id := by
  have hids' : (rules'.map Rule.id).Nodup := (hperm.map Rule.id).nodup_iff.2 hids
  by_cases h : ∃ rule ∈ rules, rule.id.text = id
  · obtain ⟨rule, hrule, rfl⟩ := h
    rw [filter_id_eq_singleton hids hrule, filter_id_eq_singleton hids' (hperm.mem_iff.2 hrule)]
  · have hnone : rules.filter (fun r => r.id.text == id) = [] :=
      List.filter_eq_nil_iff.2 fun r hr heq => h ⟨r, hr, eq_of_beq heq⟩
    rw [hnone, ← List.perm_nil, ← hnone]
    exact hperm.filter _

/-- The findings for a rule are those of its matches. -/
theorem filter_ruleId_findingsOf (id : String) (ms : List (CallSite × Rule)) :
    (findingsOf ms).filter (fun f => f.ruleId == id) =
      findingsOf (ms.filter fun m => m.2.id.text == id) :=
  List.filter_map

/-- What is reported for one id comes from the rules with that id. -/
theorem filter_ruleId_matchesAmong (id : String) (rules : List Rule) (calls : List CallSite) :
    (findingsOf (matchesAmong rules calls)).filter (fun f => f.ruleId == id) =
      findingsOf (matchesAmong (rules.filter fun r => r.id.text == id) calls) := by
  rw [filter_ruleId_findingsOf, matchesAmong_filter]

namespace Analyzer

/-- **Rules do not interfere.**  Let the rules have pairwise different ids.  Then there
is a report for every choice of adapters but the empty one, whatever the units are and
whenever the run is cancelled; it is the same for every order of the rules; and the
findings for one of the rules, in order and in full, are the findings of a run in which
it is the only rule. -/
theorem reportFor_perm_and_alone (hids : (rules.map Rule.id).Nodup) (adapters : List Adapter)
    (limit : Nat) (units : List SourceUnit) (cancelled : Bool) (interrupt : Interrupt) :
    (adapters ≠ [] → ∃ r, reportFor rules adapters limit units cancelled interrupt = .ok r) ∧
    (∀ rules' : List Rule, rules'.Perm rules →
      reportFor rules' adapters limit units cancelled interrupt =
        reportFor rules adapters limit units cancelled interrupt) ∧
    (∀ rule ∈ rules,
      (reportFor rules adapters limit units cancelled interrupt).map
          (fun r => r.findings.filter fun f => f.ruleId == rule.id.text) =
        (reportFor [rule] adapters limit units cancelled interrupt).map Report.findings) := by
  obtain ⟨calls, failures, analyzed, skipped, hreport⟩ :=
    exists_reportFor_eq adapters limit units cancelled interrupt
  refine ⟨fun hadapters => exists_reportFor_eq_ok hids hadapters limit units cancelled interrupt,
    fun rules' hperm => ?_, fun rule hrule => ?_⟩
  · have hids' : (rules'.map Rule.id).Nodup := (hperm.map Rule.id).nodup_iff.2 hids
    have hlisting : Finding.listing (findingsOf (matchesAmong rules' calls)) =
        Finding.listing (findingsOf (matchesAmong rules calls)) := by
      refine Finding.listing_congr_ruleId fun id => ?_
      rw [filter_ruleId_matchesAmong, filter_ruleId_matchesAmong, filter_id_of_perm hids hperm]
    rw [hreport rules' hids', hreport rules hids, hlisting]
  · have halone : (Finding.listing (findingsOf (matchesAmong rules calls))).filter
          (fun f => f.ruleId == rule.id.text) =
        Finding.listing (findingsOf (matchesAmong [rule] calls)) := by
      rw [← Finding.listing_filter (fun id => id == rule.id.text), filter_ruleId_matchesAmong,
        filter_id_eq_singleton hids hrule]
    rw [hreport rules hids, hreport [rule] (List.nodup_singleton _)]
    cases adapters.isEmpty with
    | true => rfl
    | false => exact congrArg Except.ok halone

/-- The instance of two rules about one method. -/
theorem reportFor_perm_and_alone_logHint :
    ([logRule, logHint].map Rule.id).Nodup ∧
    (∃ r, reportFor [logRule, logHint] [logAdapter] 100 [logUnit "A.java"] false .never = .ok r) ∧
    reportFor [logHint, logRule] [logAdapter] 100 [logUnit "A.java"] false .never =
      reportFor [logRule, logHint] [logAdapter] 100 [logUnit "A.java"] false .never ∧
    (reportFor [logRule, logHint] [logAdapter] 100 [logUnit "A.java"] false .never).map
        (fun r => r.findings.filter fun f => f.ruleId == "LogHint") =
      (reportFor [logHint] [logAdapter] 100 [logUnit "A.java"] false .never).map
        Report.findings := by
  have hids : ([logRule, logHint].map Rule.id).Nodup := by decide
  obtain ⟨hexists, hperm, halone⟩ :=
    reportFor_perm_and_alone hids [logAdapter] 100 [logUnit "A.java"] false .never
  exact ⟨hids, hexists (List.cons_ne_nil _ _), hperm _ (List.Perm.swap _ _ _),
    halone logHint (List.mem_cons_of_mem _ List.mem_cons_self)⟩

end Analyzer

end ForbiddenCalls
