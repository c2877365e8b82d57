import ForbiddenCalls.Config.Basic
import ForbiddenCalls.Proofs.LogExample
import ForbiddenCalls.Proofs.RuleDependence

/-!
# What a configuration does to a report

A configuration is applied to the rules before an analyzer is built from them: rules
that are switched off are left out, and severities are replaced.  The report shows
this and nothing else.  `Config.revise` says it on the report of the rules as they
were: the findings of the rules that are switched off are deleted, and severities are
replaced in those that stay.

On the way to the report the rules pass through the index, the log and the sort.  The
configuration commutes with each of these: with the comparison of calls and rules, since
a severity plays no part in matching (`matchesAmong_applyOverrides`), with the log and
the sort, since a selection by rule may be made before or after (`listing_adjustMatch`),
and with a schedule, since a selection from the reports of each unit interleaves to the
selection of an interleaving (`Interleaving.map_filterMap_iff`).
-/

namespace ForbiddenCalls

namespace Config

variable {rules : List Rule}

/-- A finding with the severity that the configuration gives its rule. -/
def adjustFinding (c : Config) (f : Finding) : Finding :=
  { f with severity := (c.ruleSeverity? f.ruleId).getD f.severity }

/-- The findings without those of rules that are switched off, the others with the
severities that the configuration gives their rules. -/
def reviseFindings (c : Config) (fs : List Finding) : List Finding :=
  (fs.filter fun f => (c.ruleConfig f.ruleId).enabled != some false).map c.adjustFinding

/-- The report after what the configuration says of the rules. -/
def revise (c : Config) (r : Report) : Report :=
  { r with findings := c.reviseFindings r.findings }

/-- A match after what the configuration says of its rule. -/
def adjustMatch (c : Config) (m : CallSite × Rule) : Option (CallSite × Rule) :=
  if c.isRuleEnabled m.2.id.text then some (m.1, c.adjust m.2) else none

/-! ## Rules -/

/-- An adjusted rule matches what the rule matches. -/
theorem isMatch_adjust (c : Config) (r : Rule) (call : CallSite) :
    (c.adjust r).isMatch call = r.isMatch call := by
  unfold adjust
  split
  · exact r.isMatch_withSeverity _ call
  · rfl

/-- The finding for an adjusted rule. -/
theorem finding_adjust (c : Config) (r : Rule) (call : CallSite) :
    (c.adjust r).finding call = c.adjustFinding (r.finding call) := by
  have hid : (r.finding call).ruleId = r.id.text := rfl
  rw [adjust, adjustFinding, hid]
  cases c.ruleSeverity? r.id.text <;> rfl

theorem adjust_adjust (c : Config) (r : Rule) : c.adjust (c.adjust r) = c.adjust r := by
  rw [adjust, id_adjust, adjust]
  cases c.ruleSeverity? r.id.text <;> rfl

/-- The configuration adds no rule and keeps the order. -/
theorem sublist_ids_applyOverrides (c : Config) (rules : List Rule) :
    ((c.applyOverrides rules).map Rule.id).Sublist (rules.map Rule.id) := by
  have hid : Rule.id ∘ c.adjust = Rule.id := funext c.id_adjust
  rw [applyOverrides, List.map_map, hid]
  exact List.filter_sublist.map Rule.id

/-- Applying the configuration again changes nothing. -/
theorem applyOverrides_applyOverrides (c : Config) (rules : List Rule) :
    c.applyOverrides (c.applyOverrides rules) = c.applyOverrides rules := by
  have hid : (fun r : Rule => c.isRuleEnabled r.id.text) ∘ c.adjust =
      fun r => c.isRuleEnabled r.id.text := funext fun r => by
    rw [Function.comp_apply, id_adjust]
  have hadjust : c.adjust ∘ c.adjust = c.adjust := funext c.adjust_adjust
  rw [applyOverrides, applyOverrides, List.filter_map, hid, List.filter_filter, List.map_map,
    hadjust]
  simp only [Bool.and_self]

/-- Only what the configuration says about the ids of the rules matters. -/
theorem applyOverrides_congr {c c' : Config}
    (h : ∀ r ∈ rules, c'.ruleConfig r.id.text = c.ruleConfig r.id.text) :
    c'.applyOverrides rules = c.applyOverrides rules := by
  have henabled : rules.filter (fun r => c'.isRuleEnabled r.id.text) =
      rules.filter fun r => c.isRuleEnabled r.id.text := by
    refine List.filter_congr fun r hr => ?_
    rw [isRuleEnabled, isRuleEnabled, h r hr]
  rw [applyOverrides, applyOverrides, henabled]
  refine List.map_congr_left fun r hr => ?_
  rw [adjust, adjust, ruleSeverity?, ruleSeverity?, h r (List.mem_of_mem_filter hr)]

/-! ## Matches and findings -/

/-- **The matches of the rules as they are configured.** -/
theorem matchesAmong_applyOverrides (c : Config) (rules : List Rule) (calls : List CallSite) :
    matchesAmong (c.applyOverrides rules) calls =
      (matchesAmong rules calls).filterMap c.adjustMatch := by
  rw [applyOverrides, matchesAmong_map c.isMatch_adjust, matchesAmong_filter,
    ← List.filterMap_eq_map, List.filterMap_filter]
  rfl

/-- The findings of the matches after what the configuration says of their rules. -/
theorem findingsOf_adjustMatch (c : Config) (ms : List (CallSite × Rule)) :
    findingsOf (ms.filterMap c.adjustMatch) = c.reviseFindings (findingsOf ms) := by
  rw [findingsOf, findingsOf, reviseFindings, List.map_filterMap, List.filter_map, List.map_map,
    ← List.filterMap_eq_map, List.filterMap_filter]
  refine List.filterMap_congr fun m _ => ?_
  have hid : (m.2.finding m.1).ruleId = m.2.id.text := rfl
  rw [adjustMatch, Function.comp_apply, hid, ← isRuleEnabled_eq]
  split
  · exact congrArg some (c.finding_adjust m.2 m.1)
  · rfl

/-- **The configuration may be applied before or after listing.** -/
theorem listing_adjustMatch (c : Config) (ms : List (CallSite × Rule)) :
    Finding.listing (findingsOf (ms.filterMap c.adjustMatch)) =
      c.reviseFindings (Finding.listing (findingsOf ms)) := by
  rw [findingsOf_adjustMatch, reviseFindings, reviseFindings,
    Finding.listing_map (g := c.adjustFinding) (fun _ => rfl) (fun _ => rfl),
    Finding.listing_filter fun id => (c.ruleConfig id).enabled != some false]

end Config

namespace Analyzer

variable {a a' : Analyzer} {c : Config} {rules : List Rule}

/-- The matches of a unit for the rules as they are configured. -/
theorem reports_applyOverrides (h : a'.SameReading a)
    (hrules : a'.registry.activeRules = c.applyOverrides a.registry.activeRules)
    (u : SourceUnit) : a'.reports u = (a.reports u).filterMap c.adjustMatch := by
  rw [reports_eq, reports_eq, hrules, h.callsOf_eq, Config.matchesAmong_applyOverrides]

/-- **The reports that runs can end with**, for every schedule and every cancellation,
with the rules as they are configured. -/
theorem exists_finishes_applyOverrides_iff (h : a'.SameReading a)
    (hrules : a'.registry.activeRules = c.applyOverrides a.registry.activeRules)
    {units : List SourceUnit} {r' : Report} :
    (∃ s, a'.Finishes units s ∧ s.report = r') ↔
      ∃ s, a.Finishes units s ∧ c.revise s.report = r' := by
  have hqueues : ∀ us : List SourceUnit, us.map a'.reports =
      (us.map a.reports).map (List.filterMap c.adjustMatch) := by
    intro us
    rw [List.map_map]
    exact List.map_congr_left fun u _ => reports_applyOverrides h hrules u
  have hreport : ∀ us n ms, a'.reportOn us n (ms.filterMap c.adjustMatch) =
      c.revise (a.reportOn us n ms) := by
    intro us n ms
    rw [reportOn, reportOn, Config.revise, Config.listing_adjustMatch, h.failure?_eq]
  have hrevised : (∃ s, a.Finishes units s ∧ c.revise s.report = r') ↔
      ∃ r, (∃ s, a.Finishes units s ∧ s.report = r) ∧ c.revise r = r' := by
    constructor
    · rintro ⟨s, hs, hr⟩
      exact ⟨_, ⟨s, hs, rfl⟩, hr⟩
    · rintro ⟨_, ⟨s, hs, rfl⟩, hr⟩
      exact ⟨s, hs, hr⟩
  rw [hrevised]
  simp only [exists_finishes_iff, hqueues, Interleaving.map_filterMap_iff]
  constructor
  · rintro ⟨taken, _, hsub, ⟨ms, hwoven, rfl⟩, rfl⟩
    exact ⟨_, ⟨taken, ms, hsub, hwoven, rfl⟩, (hreport _ _ _).symm⟩
  · rintro ⟨_, ⟨taken, ms, hsub, hwoven, rfl⟩, rfl⟩
    exact ⟨taken, _, hsub, ⟨ms, hwoven, rfl⟩, hreport _ _ _⟩

/-- **A configuration acts on the findings of the rules that it names, and on nothing
else.**  Let the rules have pairwise different ids.  There is a report for every choice
of adapters but the empty one, and the report for the rules as they are configured is
that for the rules, revised: the findings of rules that are switched off are deleted and
severities are replaced, while order, locations, messages, failures and counts stay.
This holds of the sequential run, whenever it is cancelled, and of the reports that runs
with other schedules can end with.  What the configuration says about other ids does not
matter, and applying it a second time changes nothing. -/
theorem reportFor_applyOverrides (hids : (rules.map Rule.id).Nodup) (c : Config)
    (adapters : List Adapter) (limit : Nat) :
    (∀ units cancelled interrupt,
      (adapters ≠ [] → ∃ r, reportFor rules adapters limit units cancelled interrupt = .ok r) ∧
      reportFor (c.applyOverrides rules) adapters limit units cancelled interrupt =
        (reportFor rules adapters limit units cancelled interrupt).map c.revise) ∧
    (∀ a, build .empty rules adapters limit = .ok a →
      ∃ a', build .empty (c.applyOverrides rules) adapters limit = .ok a' ∧
        ∀ units r', (∃ s, a'.Finishes units s ∧ s.report = r') ↔
          ∃ s, a.Finishes units s ∧ c.revise s.report = r') ∧
    (∀ c' : Config, (∀ r ∈ rules, c'.ruleConfig r.id.text = c.ruleConfig r.id.text) →
      c'.applyOverrides rules = c.applyOverrides rules) ∧
    c.applyOverrides (c.applyOverrides rules) = c.applyOverrides rules := by
  have hids' : ((c.applyOverrides rules).map Rule.id).Nodup :=
    hids.sublist (c.sublist_ids_applyOverrides rules)
  refine ⟨fun units cancelled interrupt => ⟨fun hadapters => ?_, ?_⟩, fun a hbuild => ?_,
    fun c' h => Config.applyOverrides_congr h, c.applyOverrides_applyOverrides rules⟩
  · exact exists_reportFor_eq_ok hids hadapters limit units cancelled interrupt
  · obtain ⟨calls, failures, analyzed, skipped, hreport⟩ :=
      exists_reportFor_eq adapters limit units cancelled interrupt
    rw [hreport rules hids, hreport _ hids', Config.matchesAmong_applyOverrides,
      Config.listing_adjustMatch]
    cases adapters.isEmpty <;> rfl
  · obtain ⟨hactive, rfl, rfl, hadapters⟩ := activeRules_of_build hbuild
    obtain ⟨registry, hactive', hbuild'⟩ := exists_build_eq_ok hids' hadapters a.maxFileBytes
    have hreading : SameReading ⟨registry, a.adapters, a.maxFileBytes⟩ a := ⟨rfl, rfl⟩
    rw [← hactive] at hactive'
    exact ⟨_, hbuild', fun units r' => exists_finishes_applyOverrides_iff hreading hactive'⟩

/-- Switches one rule off, makes another one a warning, and names a rule that does not
exist. -/
def logConfig : Config where
  rules := [("LogHint", { enabled := some false }), ("NoLog", { severity := some .warning }),
    ("NoExit", { enabled := some false })]

/-- The instance of two rules about one method. -/
theorem reportFor_applyOverrides_logConfig :
    ([logRule, logHint].map Rule.id).Nodup ∧
    (reportFor (logConfig.applyOverrides [logRule, logHint]) [logAdapter] 100 [logUnit "A.java"]
        false .never =
      (reportFor [logRule, logHint] [logAdapter] 100 [logUnit "A.java"] false .never).map
        logConfig.revise) ∧
    logConfig.applyOverrides [logRule, logHint] = [logRule.withSeverity .warning] := by
  have hids : ([logRule, logHint].map Rule.id).Nodup := by decide
  obtain ⟨hsequential, -, -, -⟩ := reportFor_applyOverrides hids logConfig [logAdapter] 100
  exact ⟨hids, (hsequential [logUnit "A.java"] false .never).2, by decide⟩

end Analyzer

end ForbiddenCalls
