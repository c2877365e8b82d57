import ForbiddenCalls.Analysis.Run
import Mathlib.Tactic.Common

/-!
# Registering a list of rules

A registry takes rules one at a time and refuses an id that it has seen.  For a
list of rules this comes to a condition on the list: all rules are taken exactly
when no id occurs twice, neither in the list nor in what was registered before, and
then they follow the older rules in their order.

* `Registry.registerAll_of_nodup`, `Registry.registerAll_eq_none_iff`: the condition,
  and what is registered then.
* `Analyzer.build_eq_ok_iff`, `Analyzer.exists_build_eq`: the same for the analyzer
  that is built from a list of rules.
-/

namespace ForbiddenCalls

namespace Registry

variable {r r' : Registry} {rule : Rule} {rules : List Rule}

/-- The ids that have a position are those of the active rules. -/
theorem mem_positions_iff {id : RuleId} :
    id ∈ r.positions ↔ id ∈ r.activeRules.map Rule.id := by
  rw [Std.HashMap.mem_iff_isSome_getElem?, Option.isSome_iff_exists, List.mem_map]
  constructor
  · rintro ⟨i, hi⟩
    obtain ⟨rule, hrule, rfl⟩ := (r.position_iff id i).1 hi
    exact ⟨rule, Array.mem_toList_iff.2 (Array.mem_of_getElem? hrule), rfl⟩
  · rintro ⟨rule, hrule, rfl⟩
    obtain ⟨i, hi, rfl⟩ := List.getElem_of_mem hrule
    exact ⟨i, (r.position_iff _ i).2 ⟨_, Array.getElem?_eq_getElem hi, rfl⟩⟩

theorem register_of_mem (h : rule.id ∈ r.activeRules.map Rule.id) :
    r.register rule = .error ⟨rule.id.text⟩ := by
  rw [register, dif_pos (mem_positions_iff.2 h)]

/-- A rule with a new id becomes the last one. -/
theorem exists_register (h : rule.id ∉ r.activeRules.map Rule.id) :
    ∃ r', r.register rule = .ok r' ∧ r'.activeRules = r.activeRules ++ [rule] := by
  rw [register, dif_neg (mt mem_positions_iff.1 h)]
  exact ⟨_, rfl, Array.toList_push⟩

/-- **Rules whose ids are new and pairwise different are all registered**, behind the
older rules and in their order. -/
theorem registerAll_of_nodup (h : ((r.activeRules ++ rules).map Rule.id).Nodup) :
    ∃ r', r.registerAll rules = (r', none) ∧ r'.activeRules = r.activeRules ++ rules := by
  induction rules generalizing r with
  | nil => exact ⟨r, rfl, (List.append_nil _).symm⟩
  | cons rule rules ih =>
    have hnew : rule.id ∉ r.activeRules.map Rule.id := by
      rw [List.map_append, List.nodup_append] at h
      exact fun hmem => h.2.2 _ hmem _ List.mem_cons_self rfl
    obtain ⟨r₁, hregister, hactive⟩ := exists_register hnew
    rw [← List.singleton_append, ← List.append_assoc, ← hactive] at h
    obtain ⟨r₂, hall, hactive₂⟩ := ih h
    refine ⟨r₂, ?_, ?_⟩
    · rw [registerAll, hregister]
      exact hall
    · rw [hactive₂, hactive, List.append_assoc, List.singleton_append]

/-- What is registered when no rule is refused. -/
theorem activeRules_of_registerAll (h : r.registerAll rules = (r', none)) :
    r'.activeRules = r.activeRules ++ rules := by
  induction rules generalizing r with
  | nil =>
    obtain rfl : r = r' := congrArg Prod.fst h
    exact (List.append_nil _).symm
  | cons rule rules ih =>
    by_cases hmem : rule.id ∈ r.activeRules.map Rule.id
    · rw [registerAll, register_of_mem hmem] at h
      exact nomatch congrArg Prod.snd h
    · obtain ⟨r₁, hregister, hactive⟩ := exists_register hmem
      rw [registerAll, hregister] at h
      rw [ih h, hactive, List.append_assoc, List.singleton_append]

/-- **No rule is refused exactly when no id occurs twice.** -/
theorem registerAll_eq_none_iff :
    (r.registerAll rules).2 = none ↔ ((r.activeRules ++ rules).map Rule.id).Nodup := by
  constructor
  · intro hnone
    have hall : r.registerAll rules = ((r.registerAll rules).1, none) := Prod.ext rfl hnone
    -- all rules are active then, and no registry has an id twice
    rw [← activeRules_of_registerAll hall]
    exact nodup_ids _
  · intro hids
    obtain ⟨r', hall, -⟩ := registerAll_of_nodup hids
    rw [hall]

end Registry

namespace Analyzer

variable {registry : Registry} {rules : List Rule} {adapters : List Adapter} {limit : Nat}
  {a : Analyzer}

/-- What is built, by the answer to the registration of the rules. -/
theorem build_eq (registry : Registry) (rules : List Rule) (adapters : List Adapter)
    (limit : Nat) :
    build registry rules adapters limit =
      match (registry.registerAll rules).2 with
      | some e => .error (.duplicateRule e)
      | none =>
        if adapters = [] then .error .noAdapter
        else .ok ⟨(registry.registerAll rules).1, adapters, limit⟩ := by
  rw [build]
  simp only [List.isEmpty_iff]
  split <;> next hall => rw [hall]

/-- **When an analyzer is built**, on top of the rules of a registry. -/
theorem build_eq_ok_iff :
    build registry rules adapters limit = .ok a ↔
      ((registry.activeRules ++ rules).map Rule.id).Nodup ∧ adapters ≠ [] ∧
        a = ⟨(registry.registerAll rules).1, adapters, limit⟩ := by
  rw [build_eq, ← Registry.registerAll_eq_none_iff]
  cases (registry.registerAll rules).2 with
  | some e => simp
  | none => by_cases h : adapters = [] <;> simp [h, eq_comm]

/-- An id that occurs twice is reported, even where there is no adapter. -/
theorem build_eq_duplicateRule_iff {e : DuplicateRule} :
    build registry rules adapters limit = .error (.duplicateRule e) ↔
      (registry.registerAll rules).2 = some e := by
  rw [build_eq]
  cases (registry.registerAll rules).2 with
  | some e' => simp
  | none => by_cases h : adapters = [] <;> simp [h]

theorem build_eq_noAdapter_iff :
    build registry rules adapters limit = .error .noAdapter ↔
      ((registry.activeRules ++ rules).map Rule.id).Nodup ∧ adapters = [] := by
  rw [build_eq, ← Registry.registerAll_eq_none_iff]
  cases (registry.registerAll rules).2 with
  | some e => simp
  | none => by_cases h : adapters = [] <;> simp [h]

/-- An analyzer is built from rules with pairwise different ids, unless there is no
adapter. -/
theorem exists_build_eq (hids : (rules.map Rule.id).Nodup) (adapters : List Adapter)
    (limit : Nat) :
    ∃ registry, registry.activeRules = rules ∧
      build .empty rules adapters limit =
        if adapters.isEmpty then .error .noAdapter else .ok ⟨registry, adapters, limit⟩ := by
  obtain ⟨registry, hall, hactive⟩ := Registry.registerAll_of_nodup (r := .empty) hids
  refine ⟨registry, hactive, ?_⟩
  rw [build, hall]

theorem exists_build_eq_ok (hids : (rules.map Rule.id).Nodup) (hadapters : adapters ≠ [])
    (limit : Nat) :
    ∃ registry, registry.activeRules = rules ∧
      build .empty rules adapters limit = .ok ⟨registry, adapters, limit⟩ := by
  obtain ⟨registry, hactive, hbuild⟩ := exists_build_eq hids adapters limit
  rw [if_neg (by simpa using hadapters)] at hbuild
  exact ⟨registry, hactive, hbuild⟩

/-- What an analyzer is built from. -/
theorem activeRules_of_build (h : build .empty rules adapters limit = .ok a) :
    a.registry.activeRules = rules ∧ a.adapters = adapters ∧ a.maxFileBytes = limit ∧
      adapters ≠ [] := by
  obtain ⟨hids, hadapters, rfl⟩ := build_eq_ok_iff.1 h
  obtain ⟨registry, hall, hactive⟩ := Registry.registerAll_of_nodup hids
  rw [hall]
  exact ⟨hactive, rfl, rfl, hadapters⟩

end Analyzer

end ForbiddenCalls
