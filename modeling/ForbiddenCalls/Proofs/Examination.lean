import ForbiddenCalls.Analysis.Run
import Mathlib.Tactic.Common

/-!
# What becomes of a unit

A unit is examined in steps, each of which may end the examination: looking for
an adapter, measuring, comparing with the limit, reading, traversing.  Here the
two ways an examination can end are described without the steps.

* `Analyzer.Analyzed`: the unit is analyzed by an adapter, with these calls.
* `Analyzer.Fails`: there is a reason why the unit cannot be analyzed, and
  `Analyzer.FailsWith` is the failure that is recorded for the first such reason.
* `examine_cases`: an examination ends in one of the two ways.
* `mem_reports_iff`: the matches that come of a unit.
-/

namespace ForbiddenCalls

namespace Analyzer

variable (a : Analyzer) (u : SourceUnit)

/-! ## The two ways to end -/

/-- The unit is analyzed: the first adapter that is responsible for it finds these
calls in its text, which is not over the limit. -/
structure Analyzed (d : Adapter) (calls : List CallSite) : Prop where
  responsible : a.adapters.find? (fun d => d.handles u) = some d
  fits : ∃ size, u.size = .ok size ∧ size ≤ a.maxFileBytes
  traversed : ∃ text, u.text = .ok text ∧ d.traverse u text = .ok calls

/-- No adapter is responsible for the unit. -/
def Unsupported : Prop := ∀ d ∈ a.adapters, d.handles u = false

/-- The unit cannot be measured or read. -/
def Unreadable : Prop := (∃ reason, u.size = .error reason) ∨ ∃ reason, u.text = .error reason

/-- The unit is over the limit. -/
def Oversized : Prop := ∃ size, u.size = .ok size ∧ a.maxFileBytes < size

/-- The adapter that is responsible for the unit answers with an error. -/
def Refused (e : ParseError) : Prop :=
  ∃ d text, a.adapters.find? (fun d => d.handles u) = some d ∧ u.text = .ok text ∧
    d.traverse u text = .error e

/-- There is a reason why the unit cannot be analyzed. -/
def Fails : Prop :=
  a.Unsupported u ∨ Unreadable u ∨ a.Oversized u ∨ ∃ e, a.Refused u e

/-- The failure that is recorded for a unit: that of the first reason.  It names
the path of the unit, and a place in it only for a syntax error. -/
inductive FailsWith : Failure → Prop
  | unsupported : a.Unsupported u →
      FailsWith ⟨u.path, none, ParseError.message (.unsupported u.extension)⟩
  | unmeasured {reason : String} : ¬ a.Unsupported u → u.size = .error reason →
      FailsWith ⟨u.path, none, "unreadable: " ++ reason⟩
  | oversized {size : Nat} : ¬ a.Unsupported u → u.size = .ok size → a.maxFileBytes < size →
      FailsWith ⟨u.path, none, ParseError.message (.tooLarge size a.maxFileBytes)⟩
  | unread {reason : String} : ¬ a.Unsupported u → (∃ size, u.size = .ok size) →
      ¬ a.Oversized u → u.text = .error reason →
      FailsWith ⟨u.path, none, "unreadable: " ++ reason⟩
  | malformed {line column : Nat} {reason : String} : (∃ size, u.size = .ok size) →
      ¬ a.Oversized u → a.Refused u (.malformed line column reason) →
      FailsWith ⟨u.path, some { file := u.path, line, column },
        ParseError.message (.malformed line column reason)⟩
  | refused {e : ParseError} : (∃ size, u.size = .ok size) → ¬ a.Oversized u →
      a.Refused u e → e.position? = none → FailsWith ⟨u.path, none, e.message⟩

/-- A call of the unit that a rule forbids, with the type that owns it. -/
structure Forbids (c : CallSite) (r : Rule) (type : String) : Prop where
  found : ∃ d calls, a.Analyzed u d calls ∧ c ∈ calls ∧ d.resolveOwner c = .resolved type
  active : r ∈ a.registry.activeRules
  method : c.method ∈ r.methods
  receiver : r.requiresReceiver = true → c.hasReceiver = true
  owner : r.owner.accepts type = true

variable {a u}

theorem Analyzed.unique {d d' : Adapter} {calls calls' : List CallSite}
    (h : a.Analyzed u d calls) (h' : a.Analyzed u d' calls') : d = d' ∧ calls = calls' := by
  have hd : some d = some d' := h.responsible.symm.trans h'.responsible
  obtain rfl := Option.some.inj hd
  obtain ⟨text, htext, hcalls⟩ := h.traversed
  obtain ⟨text', htext', hcalls'⟩ := h'.traversed
  obtain rfl := Except.ok.inj (htext.symm.trans htext')
  exact ⟨rfl, Except.ok.inj (hcalls.symm.trans hcalls')⟩

/-- No adapter is the first one that is responsible for an unsupported unit. -/
theorem Unsupported.find?_ne_some (h : a.Unsupported u) (d : Adapter) :
    a.adapters.find? (fun d => d.handles u) ≠ some d := by
  intro hd
  have hhandles := List.find?_some hd
  rw [h d (List.mem_of_find?_eq_some hd)] at hhandles
  exact Bool.false_ne_true hhandles

/-- A unit that is analyzed has no reason to fail. -/
theorem Analyzed.not_fails {d : Adapter} {calls : List CallSite} (h : a.Analyzed u d calls) :
    ¬ a.Fails u := by
  obtain ⟨size, hsize, hfits⟩ := h.fits
  obtain ⟨text, htext, hcalls⟩ := h.traversed
  rintro (hunsupported | (⟨reason, hr⟩ | ⟨reason, hr⟩) | ⟨size', hs, hover⟩ |
    ⟨e, d', text', hd, ht, he⟩)
  · exact hunsupported.find?_ne_some d h.responsible
  · exact nomatch hsize.symm.trans hr
  · exact nomatch htext.symm.trans hr
  · rw [Except.ok.inj (hsize.symm.trans hs)] at hfits
    omega
  · obtain rfl := Option.some.inj (h.responsible.symm.trans hd)
    obtain rfl := Except.ok.inj (htext.symm.trans ht)
    exact nomatch hcalls.symm.trans he

/-- A unit for which a failure is recorded has a reason to fail. -/
theorem FailsWith.fails {f : Failure} (h : a.FailsWith u f) : a.Fails u := by
  cases h with
  | unsupported h => exact Or.inl h
  | unmeasured _ h => exact Or.inr (Or.inl (Or.inl ⟨_, h⟩))
  | oversized _ hsize h => exact Or.inr (Or.inr (Or.inl ⟨_, hsize, h⟩))
  | unread _ _ _ h => exact Or.inr (Or.inl (Or.inr ⟨_, h⟩))
  | malformed _ _ h => exact Or.inr (Or.inr (Or.inr ⟨_, h⟩))
  | refused _ _ h => exact Or.inr (Or.inr (Or.inr ⟨_, h⟩))

/-- The failure of a unit names its path. -/
theorem FailsWith.file_eq {f : Failure} (h : a.FailsWith u f) : f.file = u.path := by
  cases h with
  | unsupported _ => rfl
  | unmeasured _ _ => rfl
  | oversized _ _ _ => rfl
  | unread _ _ _ _ => rfl
  | malformed _ _ _ => rfl
  | refused _ _ _ _ => rfl

/-! ## An examination ends in one of the two ways -/

theorem map_fst_adapterFor? :
    (a.adapterFor? u).map Prod.fst = a.adapters.find? fun d => d.handles u := by
  conv_rhs => rw [← List.zipIdx_map_fst 0 a.adapters, List.find?_map]
  rfl

theorem adapterFor?_eq_none_iff : a.adapterFor? u = none ↔ a.Unsupported u := by
  rw [← Option.map_eq_none_iff (f := Prod.fst), map_fst_adapterFor?, List.find?_eq_none]
  simp [Unsupported]

theorem find?_of_adapterFor? {d : Adapter} {position : Nat}
    (h : a.adapterFor? u = some (d, position)) :
    a.adapters.find? (fun d => d.handles u) = some d := by
  rw [← map_fst_adapterFor?, h, Option.map_some]

/-- The error of a traversal is recorded with the place of a syntax error. -/
theorem failsWith_parseFailure {e : ParseError} (hsize : ∃ size, u.size = .ok size)
    (hfits : ¬ a.Oversized u) (h : a.Refused u e) : a.FailsWith u (parseFailure u e) := by
  cases e with
  | malformed line column reason => exact FailsWith.malformed hsize hfits h
  | unsupported extension => exact FailsWith.refused hsize hfits h rfl
  | tooLarge size limit => exact FailsWith.refused hsize hfits h rfl
  | parserFailed reason => exact FailsWith.refused hsize hfits h rfl

/-- **An examination** finds the calls of a unit that is analyzed, with the owners
that its adapter gives them, or records the failure of one that is not. -/
theorem examine_cases (a : Analyzer) (u : SourceUnit) :
    (∃ d calls, a.Analyzed u d calls ∧ (a.examine u).outcome =
        .ok (calls.map fun c => { c with owner := d.resolveOwner c })) ∨
      ∃ f, a.FailsWith u f ∧ (a.examine u).outcome = .error f := by
  unfold examine
  split
  · next hnone =>
    exact Or.inr ⟨_, FailsWith.unsupported (adapterFor?_eq_none_iff.1 hnone), rfl⟩
  · next d position hsome =>
    have hfirst := find?_of_adapterFor? hsome
    have hsupported : ¬ a.Unsupported u := fun h => h.find?_ne_some d hfirst
    split
    · next reason hsize => exact Or.inr ⟨_, FailsWith.unmeasured hsupported hsize, rfl⟩
    · next size hsize =>
      split
      · next hover => exact Or.inr ⟨_, FailsWith.oversized hsupported hsize hover, rfl⟩
      · next hfits =>
        have hnot : ¬ a.Oversized u := by
          rintro ⟨size', hsize', hover⟩
          obtain rfl := Except.ok.inj (hsize.symm.trans hsize')
          exact hfits hover
        split
        · next reason htext =>
          exact Or.inr ⟨_, FailsWith.unread hsupported ⟨size, hsize⟩ hnot htext, rfl⟩
        · next text htext =>
          unfold Adapter.calls
          cases htraverse : d.traverse u text with
          | error e =>
            have hrefused : a.Refused u e := ⟨d, text, hfirst, htext, htraverse⟩
            exact Or.inr ⟨_, failsWith_parseFailure ⟨size, hsize⟩ hnot hrefused, rfl⟩
          | ok calls =>
            have hanalyzed : a.Analyzed u d calls :=
              ⟨hfirst, ⟨size, hsize, Nat.not_lt.1 hfits⟩, text, htext, htraverse⟩
            exact Or.inl ⟨d, calls, hanalyzed, rfl⟩

theorem examine_of_analyzed {d : Adapter} {calls : List CallSite} (h : a.Analyzed u d calls) :
    (a.examine u).outcome = .ok (calls.map fun c => { c with owner := d.resolveOwner c }) := by
  rcases a.examine_cases u with ⟨d', calls', h', heq⟩ | ⟨f, hf, -⟩
  · obtain ⟨rfl, rfl⟩ := h.unique h'
    exact heq
  · exact absurd hf.fails h.not_fails

/-! ## Failures -/

variable (a u) in
/-- The failure of a unit, when it has one. -/
def failure? : Option Failure :=
  match (a.examine u).outcome with
  | .error failure => some failure
  | .ok _ => none

theorem failure?_eq_none_of_ok {calls : List CallSite} (h : (a.examine u).outcome = .ok calls) :
    a.failure? u = none := by
  rw [failure?, h]

theorem failure?_of_error {f : Failure} (h : (a.examine u).outcome = .error f) :
    a.failure? u = some f := by
  rw [failure?, h]

theorem failsWith_of_failure? {f : Failure} (h : a.failure? u = some f) : a.FailsWith u f := by
  rcases a.examine_cases u with ⟨d, calls, -, heq⟩ | ⟨g, hg, heq⟩
  · rw [failure?_eq_none_of_ok heq] at h
    exact absurd h (by simp)
  · rw [failure?_of_error heq] at h
    exact Option.some.inj h ▸ hg

theorem isSome_failure?_iff : (a.failure? u).isSome = true ↔ a.Fails u := by
  rcases a.examine_cases u with ⟨d, calls, h, heq⟩ | ⟨f, hf, heq⟩
  · rw [failure?_eq_none_of_ok heq]
    simpa using h.not_fails
  · rw [failure?_of_error heq]
    simpa using hf.fails

instance (a : Analyzer) : DecidablePred a.Fails := fun _ => decidable_of_iff _ isSome_failure?_iff

/-! ## Matches -/

variable (a u) in
/-- The matches that come of a unit, in the order in which they are reported. -/
def reports : List (CallSite × Rule) :=
  match (a.examine u).outcome with
  | .error _ => []
  | .ok calls => a.matchesOf calls

theorem reports_of_ok {calls : List CallSite} (h : (a.examine u).outcome = .ok calls) :
    a.reports u = a.matchesOf calls := by
  rw [reports, h]

/-- A unit that fails reports nothing. -/
theorem reports_of_fails (h : a.Fails u) : a.reports u = [] := by
  rcases a.examine_cases u with ⟨d, calls, hanalyzed, -⟩ | ⟨f, -, heq⟩
  · exact absurd h hanalyzed.not_fails
  · rw [reports, heq]

theorem mem_matchesOf {calls : List CallSite} {c : CallSite} {r : Rule} :
    (c, r) ∈ a.matchesOf calls ↔
      c ∈ calls ∧ r ∈ a.registry.activeRules ∧ r.isMatch c = true := by
  simp only [matchesOf, matchingRules, List.mem_flatMap, List.mem_map, Prod.mk.injEq,
    List.mem_filter, Registry.candidates_eq, NameSet.contains_iff]
  constructor
  · rintro ⟨c', hc, r', ⟨⟨hr, -⟩, hmatch⟩, rfl, rfl⟩
    exact ⟨hc, hr, hmatch⟩
  · rintro ⟨hc, hr, hmatch⟩
    exact ⟨c, hc, r, ⟨⟨hr, (Rule.isMatch_iff.1 hmatch).2.1⟩, hmatch⟩, rfl, rfl⟩

/-- **The matches of a unit** are its forbidden calls, each with the owner that was
found for it. -/
theorem mem_reports_iff {c : CallSite} {r : Rule} :
    (c, r) ∈ a.reports u ↔
      ∃ raw type, a.Forbids u raw r type ∧ c = { raw with owner := .resolved type } := by
  constructor
  · intro h
    rcases a.examine_cases u with ⟨d, calls, hanalyzed, heq⟩ | ⟨f, hf, -⟩
    · rw [reports_of_ok heq, mem_matchesOf, List.mem_map] at h
      obtain ⟨⟨raw, hraw, rfl⟩, hr, hmatch⟩ := h
      obtain ⟨hreceiver, hmethod, type, howner, haccepts⟩ := Rule.isMatch_iff.1 hmatch
      have howner' : d.resolveOwner raw = .resolved type := howner
      exact ⟨raw, type, ⟨⟨d, calls, hanalyzed, hraw, howner'⟩, hr, hmethod, hreceiver, haccepts⟩,
        by rw [howner']⟩
    · rw [reports_of_fails hf.fails] at h
      exact absurd h List.not_mem_nil
  · rintro ⟨raw, type, h, rfl⟩
    obtain ⟨d, calls, hanalyzed, hraw, howner⟩ := h.found
    rw [reports_of_ok (examine_of_analyzed hanalyzed), mem_matchesOf, List.mem_map,
      Rule.isMatch_iff]
    exact ⟨⟨raw, hraw, by rw [howner]⟩, h.active, h.receiver, h.method, type, rfl, h.owner⟩

end Analyzer

end ForbiddenCalls
