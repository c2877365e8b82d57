import ForbiddenCalls.Proofs.ConfiguredRules
import ForbiddenCalls.Proofs.RegistryRuns
import ForbiddenCalls.Proofs.Verdict

/-!
# Starting up

An analyzer is built from a registry, which may hold rules already, and from rules of three
sources, as the configuration leaves them.  Two things can go wrong.  A rule can have an id
that is in use, by a registered rule or by one before it, and there can be no adapter.  An id
in use is looked for first, so it is the answer even where there is no adapter either.

Rules that are switched off are gone before anything is registered.  What they are called
does therefore not matter: two of them may share an id, or one of them may have the id of a
registered rule.

* `Registry.FirstCollision`, `Registry.registerAll_eq_some_iff`: the rule that is reported.
* `Config.applyOverrides_eq`: what the configuration leaves, rule by rule.
* `Analyzer.build_assemble`: when there is an analyzer, what its rules are, and why there is
  none otherwise.
-/

namespace ForbiddenCalls

/-! ## Registering on top of a registry -/

namespace Registry

variable {r : Registry} {older new : List Rule} {e : DuplicateRule}

/-- The first rule of a list whose id is in use: an older rule or one before it in the list
has that id, and up to there the ids are pairwise different. -/
def FirstCollision (older new : List Rule) (rule : Rule) : Prop :=
  ∃ before after, new = before ++ rule :: after ∧ rule.id ∈ (older ++ before).map Rule.id ∧
    ((older ++ before).map Rule.id).Nodup

theorem FirstCollision.mem {rule : Rule} (h : FirstCollision older new rule) : rule ∈ new := by
  obtain ⟨before, after, rfl, -⟩ := h
  exact List.mem_append_right before List.mem_cons_self

/-- Either no rule of a list has an id in use, or one is the first that has. -/
theorem nodup_or_exists_firstCollision (r : Registry) (new : List Rule) :
    ((r.activeRules ++ new).map Rule.id).Nodup ∨
      ∃ rule, FirstCollision r.activeRules new rule := by
  obtain ⟨kept, rest, rfl, hkept, hrest, -⟩ := OrderedRules.exists_putAll_eq r.nodup_ids new
  cases rest with
  | nil => exact .inl (by rwa [List.append_nil])
  | cons rule after => exact .inr ⟨rule, kept, after, rfl, hrest rule rfl, hkept⟩

/-- The first collision is what a registration of several rules reports. -/
theorem snd_registerAll_of_firstCollision {rule : Rule}
    (h : FirstCollision r.activeRules new rule) :
    (r.registerAll new).2 = some ⟨rule.id.text⟩ := by
  obtain ⟨before, after, rfl, hmem, hbefore⟩ := h
  have hrest : ∀ rule' ∈ (rule :: after).head?,
      rule'.id ∈ (r.activeRules ++ before).map Rule.id := by
    rintro rule' hrule'
    rwa [← Option.some.inj hrule']
  rw [registerAll_eq_performAll hbefore hrest]
  rfl

/-- **Where some id is in use, the first rule with such an id is reported.** -/
theorem registerAll_eq_some_iff :
    (r.registerAll new).2 = some e ↔
      ∃ rule, FirstCollision r.activeRules new rule ∧ e = ⟨rule.id.text⟩ := by
  constructor
  · intro hsome
    have hids : ¬ ((r.activeRules ++ new).map Rule.id).Nodup := by
      rw [← registerAll_eq_none_iff, hsome]
      exact nofun
    obtain ⟨rule, h⟩ := (r.nodup_or_exists_firstCollision new).resolve_left hids
    have hreported := snd_registerAll_of_firstCollision h
    exact ⟨rule, h, Option.some.inj (hsome.symm.trans hreported)⟩
  · rintro ⟨rule, h, rfl⟩
    exact snd_registerAll_of_firstCollision h

end Registry

/-! ## What the configuration leaves -/

/-- The rules with other ids. -/
def withoutId (id : String) (rules : List Rule) : List Rule :=
  rules.filter fun r => r.id.text ≠ id

namespace Config

variable {c : Config} {rules : List Rule} {id : String}

/-- The rules that are not switched off. -/
def enabledRules (c : Config) (rules : List Rule) : List Rule :=
  rules.filter fun r => ¬ c.Disables r.id.text

/-- **The rules that are not switched off stay, in order**, with another severity at most. -/
theorem applyOverrides_eq (c : Config) (rules : List Rule) :
    c.applyOverrides rules =
      (c.enabledRules rules).map fun r => { r with severity := c.severityOf r } := by
  have henabled : rules.filter (fun r => c.isRuleEnabled r.id.text) = c.enabledRules rules := by
    refine List.filter_congr fun r _ => ?_
    rw [Bool.eq_iff_iff, isRuleEnabled_iff, decide_eq_true_iff]
  rw [applyOverrides, henabled]
  exact List.map_congr_left fun r _ => c.adjust_eq r

/-- No rule that is left has an id that is switched off. -/
theorem not_disables_of_mem_applyOverrides {r : Rule} (h : r ∈ c.applyOverrides rules) :
    ¬ c.Disables r.id.text := by
  rw [applyOverrides_eq] at h
  obtain ⟨r', hr', rfl⟩ := List.mem_map.1 h
  exact of_decide_eq_true (List.mem_filter.1 hr').2

/-- Rules with an id that is switched off may as well not be there. -/
theorem applyOverrides_withoutId (h : c.Disables id) (rules : List Rule) :
    c.applyOverrides (withoutId id rules) = c.applyOverrides rules := by
  have henabled : c.enabledRules (withoutId id rules) = c.enabledRules rules := by
    rw [enabledRules, withoutId, List.filter_filter]
    refine List.filter_congr fun r _ => ?_
    by_cases hid : r.id.text = id
    · simp [hid, h]
    · simp [hid]
  rw [applyOverrides_eq, applyOverrides_eq, henabled]

end Config

/-! ## Building the analyzer -/

namespace Analyzer

variable {registry : Registry} {rules : List Rule} {adapters : List Adapter} {limit : Nat}

/-- The registry of an analyzer holds the older rules and then the others. -/
theorem represents_of_nodup (h : ((registry.activeRules ++ rules).map Rule.id).Nodup) :
    (registry.registerAll rules).1.Represents (registry.activeRules ++ rules) := by
  obtain ⟨registry', hall, hactive⟩ := Registry.registerAll_of_nodup h
  rw [hall]
  exact Registry.represents_iff.2 hactive

/-- **Whether a check starts is decided by the rules that are not switched off.**  Let the
rules of the built-in set, of the configuration and of the file that is asked for be put
together, and let the analyzer be built on top of any registry.

It is built exactly when there is an adapter and the ids of the registered rules and of the
rules that the configuration leaves are pairwise different.  If some id is in use, with or
without an adapter, then the first rule whose id is in use is reported by its id; and that
there is no adapter is reported where no id is in use.  Rules with an id that is switched off
have no part in this: they can be left out of each source, and their id is never reported.
The analyzer that is built has the registered rules and behind them, in order, the rules that
are not switched off, in which nothing but the severity may differ. -/
theorem build_assemble (registry : Registry) (config : Config) (builtIn own more : List Rule)
    (adapters : List Adapter) (limit : Nat) :
    let rules := CommandLine.Check.assemble config builtIn own more
    ((∃ a, build registry rules adapters limit = .ok a) ↔
      adapters ≠ [] ∧ ((registry.activeRules ++ rules).map Rule.id).Nodup) ∧
    (∀ e, build registry rules adapters limit = .error (.duplicateRule e) ↔
      ∃ rule, Registry.FirstCollision registry.activeRules rules rule ∧ e.id = rule.id.text) ∧
    (build registry rules adapters limit = .error .noAdapter ↔
      adapters = [] ∧ ((registry.activeRules ++ rules).map Rule.id).Nodup) ∧
    (∀ id, config.Disables id →
      build registry (CommandLine.Check.assemble config (withoutId id builtIn)
        (withoutId id own) (withoutId id more)) adapters limit =
          build registry rules adapters limit ∧
      build registry rules adapters limit ≠ .error (.duplicateRule ⟨id⟩)) ∧
    (∀ a, build registry rules adapters limit = .ok a →
      a.registry.Represents (registry.activeRules ++ rules) ∧ a.adapters = adapters ∧
        a.maxFileBytes = limit) ∧
    rules = (config.enabledRules (builtIn ++ own ++ more)).map fun r =>
      { r with severity := config.severityOf r } := by
  intro rules
  refine ⟨?_, fun e => ?_, build_eq_noAdapter_iff.trans and_comm, fun id hid => ⟨?_, ?_⟩,
    fun a ha => ?_, config.applyOverrides_eq _⟩
  · simp only [build_eq_ok_iff]
    constructor
    · rintro ⟨a, hids, hadapters, -⟩
      exact ⟨hadapters, hids⟩
    · rintro ⟨hadapters, hids⟩
      exact ⟨_, hids, hadapters, rfl⟩
  · obtain ⟨id⟩ := e
    simp only [build_eq_duplicateRule_iff, Registry.registerAll_eq_some_iff, DuplicateRule.mk.injEq]
  · have hsources : withoutId id builtIn ++ withoutId id own ++ withoutId id more =
        withoutId id (builtIn ++ own ++ more) := by
      simp only [withoutId, List.filter_append]
    rw [CommandLine.Check.assemble, hsources, Config.applyOverrides_withoutId hid]
    rfl
  · intro hduplicate
    have hreported := build_eq_duplicateRule_iff.1 hduplicate
    obtain ⟨rule, hcollision, hrule⟩ := Registry.registerAll_eq_some_iff.1 hreported
    have henabled := Config.not_disables_of_mem_applyOverrides hcollision.mem
    rw [DuplicateRule.mk.injEq] at hrule
    exact henabled (hrule ▸ hid)
  · obtain ⟨hids, -, rfl⟩ := build_eq_ok_iff.1 ha
    exact ⟨represents_of_nodup hids, rfl, rfl⟩

/-- Two rules with an id that is switched off, and one with an id that is not. -/
theorem build_assemble_logConfig :
    logConfig.Disables "LogHint" ∧
    (∃ a, build .empty (CommandLine.Check.assemble logConfig [logHint] [logRule] [logHint])
      [logAdapter] 100 = .ok a ∧ a.registry.activeRules = [logRule.withSeverity .warning]) ∧
    build logRegistry (CommandLine.Check.assemble logConfig [logHint] [logRule] [logHint]) [] 100 =
      .error (.duplicateRule ⟨"NoLog"⟩) := by
  have hrules : CommandLine.Check.assemble logConfig [logHint] [logRule] [logHint] =
      [logRule.withSeverity .warning] := by decide
  obtain ⟨hok, -, -, -, hbuilt, -⟩ :=
    build_assemble .empty logConfig [logHint] [logRule] [logHint] [logAdapter] 100
  obtain ⟨-, hduplicate, -⟩ :=
    build_assemble logRegistry logConfig [logHint] [logRule] [logHint] [] 100
  simp only [hrules] at hok hbuilt hduplicate ⊢
  refine ⟨by decide, ?_, (hduplicate ⟨"NoLog"⟩).2 ?_⟩
  · obtain ⟨a, ha⟩ := hok.2 ⟨List.cons_ne_nil _ _, by decide⟩
    exact ⟨a, ha, (hbuilt a ha).1.activeRules_eq⟩
  · have hactive : logRegistry.activeRules = [logRule] := activeRules_logAnalyzer
    refine ⟨logRule.withSeverity .warning, ⟨[], [], rfl, ?_, ?_⟩, by decide⟩
    · rw [hactive]
      decide
    · rw [hactive]
      decide

end Analyzer

end ForbiddenCalls
