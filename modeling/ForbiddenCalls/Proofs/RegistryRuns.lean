import ForbiddenCalls.Proofs.Registration
import Mathlib.Data.List.Nodup

/-!
# A registry behaves as a list of rules

A registry keeps three things in step: the rules, the positions of their ids and the
positions of the rules about each method.  From outside none of this shows.  Whatever
is registered, one rule or many, taken or refused, the registry answers as a list of
rules with pairwise different ids would, which knows only two things to do: to put a
rule with a new id at its end, and to refuse any other.

The list is the machine `OrderedRules`.  A registry represents a list when all that can
be asked of it has the answer that is read off the list; one registration keeps a
registry and its list together (`Represents.perform`), and so does a run of them
(`Represents.performAll`).

* `Registry.Represents`: the answers of a registry, read off a list.
* `OrderedRules.exists_putAll_eq`: what is left of many rules at the first collision.
* `Registry.performAll_represents`: the registry after every run.
-/

namespace ForbiddenCalls

/-- A request to a registry: to register one rule, or several. -/
inductive Registration where
  | one (rule : Rule)
  | all (rules : List Rule)

variable {r : Registry} {rule : Rule} {rules new : List Rule}

/-! ## The list of rules -/

namespace OrderedRules

/-- Puts a rule at the end, unless its id is in use. -/
def put (rules : List Rule) (rule : Rule) : List Rule × Option DuplicateRule :=
  if rule.id ∈ rules.map Rule.id then (rules, some ⟨rule.id.text⟩) else (rules ++ [rule], none)

/-- Puts rules one after the other.  After a refusal nothing is put any more. -/
def putAll (rules new : List Rule) : List Rule × Option DuplicateRule :=
  new.foldl (fun s rule => if s.2.isSome then s else put s.1 rule) (rules, none)

/-- The list after a request, and the answer. -/
def perform (rules : List Rule) : Registration → List Rule × Option DuplicateRule
  | .one rule => put rules rule
  | .all new => putAll rules new

/-- The list after requests, and their answers. -/
def performAll (rules : List Rule) :
    List Registration → List Rule × List (Option DuplicateRule)
  | [] => (rules, [])
  | request :: requests =>
    let s := perform rules request
    let s' := performAll s.1 requests
    (s'.1, s.2 :: s'.2)

theorem put_of_mem (h : rule.id ∈ rules.map Rule.id) :
    put rules rule = (rules, some ⟨rule.id.text⟩) :=
  if_pos h

theorem put_of_notMem (h : rule.id ∉ rules.map Rule.id) :
    put rules rule = (rules ++ [rule], none) :=
  if_neg h

/-- After a refusal the list stays. -/
theorem foldl_put_of_isSome {s : List Rule × Option DuplicateRule} (h : s.2.isSome = true) :
    new.foldl (fun s rule => if s.2.isSome then s else put s.1 rule) s = s := by
  induction new with
  | nil => rfl
  | cons rule new ih => rw [List.foldl_cons, if_pos h, ih]

theorem putAll_cons_of_mem (h : rule.id ∈ rules.map Rule.id) :
    putAll rules (rule :: new) = (rules, some ⟨rule.id.text⟩) := by
  have hrefused : (put rules rule).2.isSome = true := by rw [put_of_mem h]; rfl
  rw [← put_of_mem h]
  exact foldl_put_of_isSome hrefused

theorem putAll_cons_of_notMem (h : rule.id ∉ rules.map Rule.id) :
    putAll rules (rule :: new) = putAll (rules ++ [rule]) new := by
  rw [putAll, putAll, ← put_of_notMem h]
  rfl

/-- A rule with a new id leaves the ids pairwise different. -/
theorem nodup_concat (hids : (rules.map Rule.id).Nodup) (h : rule.id ∉ rules.map Rule.id) :
    ((rules ++ [rule]).map Rule.id).Nodup := by
  rw [List.map_append, List.map_singleton, List.nodup_append]
  refine ⟨hids, List.nodup_singleton _, fun id hid id' hid' heq => h ?_⟩
  rwa [← List.mem_singleton.1 hid', ← heq]

/-- **Of many rules those before the first collision are kept.**  If there is one, it is
the answer. -/
theorem exists_putAll_eq (hids : (rules.map Rule.id).Nodup) (new : List Rule) :
    ∃ kept rest, new = kept ++ rest ∧ ((rules ++ kept).map Rule.id).Nodup ∧
      (∀ rule ∈ rest.head?, rule.id ∈ (rules ++ kept).map Rule.id) ∧
      putAll rules new = (rules ++ kept, rest.head?.map fun rule => ⟨rule.id.text⟩) := by
  induction new generalizing rules with
  | nil => exact ⟨[], [], rfl, by rwa [List.append_nil], nofun, by rw [List.append_nil]; rfl⟩
  | cons rule new ih =>
    by_cases h : rule.id ∈ rules.map Rule.id
    · refine ⟨[], rule :: new, rfl, by rwa [List.append_nil], ?_, ?_⟩
      · intro rule' hrule'
        rw [← Option.some.inj hrule', List.append_nil]
        exact h
      · rw [putAll_cons_of_mem h, List.append_nil]
        rfl
    · obtain ⟨kept, rest, hnew, hkept, hrest, hall⟩ := ih (nodup_concat hids h)
      rw [List.append_assoc, List.singleton_append] at hkept hrest hall
      refine ⟨rule :: kept, rest, by rw [hnew, List.cons_append], hkept, hrest, ?_⟩
      rw [putAll_cons_of_notMem h, hall]

end OrderedRules

namespace Registry

/-! ## The requests to a registry -/

/-- The registry after a request, and the answer.  A rule that is refused leaves it as it
was. -/
def perform (r : Registry) : Registration → Registry × Option DuplicateRule
  | .one rule =>
    match r.register rule with
    | .error e => (r, some e)
    | .ok r' => (r', none)
  | .all rules => r.registerAll rules

/-- The registry after requests, and their answers. -/
def performAll (r : Registry) : List Registration → Registry × List (Option DuplicateRule)
  | [] => (r, [])
  | request :: requests =>
    let s := r.perform request
    let s' := s.1.performAll requests
    (s'.1, s.2 :: s'.2)

theorem perform_one_of_mem (h : rule.id ∈ r.activeRules.map Rule.id) :
    r.perform (.one rule) = (r, some ⟨rule.id.text⟩) := by
  rw [perform, register_of_mem h]

theorem exists_perform_one (h : rule.id ∉ r.activeRules.map Rule.id) :
    ∃ r', r.perform (.one rule) = (r', none) ∧ r'.activeRules = r.activeRules ++ [rule] := by
  obtain ⟨r', hregister, hactive⟩ := exists_register h
  exact ⟨r', by rw [perform, hregister], hactive⟩

/-- To register several rules is to register them one by one up to the first one that is
refused. -/
theorem registerAll_eq_performAll {kept rest : List Rule}
    (hkept : ((r.activeRules ++ kept).map Rule.id).Nodup)
    (hrest : ∀ rule ∈ rest.head?, rule.id ∈ (r.activeRules ++ kept).map Rule.id) :
    r.registerAll (kept ++ rest) =
      ((r.performAll (kept.map .one)).1, rest.head?.map fun rule => ⟨rule.id.text⟩) := by
  induction kept generalizing r with
  | nil =>
    cases rest with
    | nil => rfl
    | cons rule rest =>
      have hmem : rule.id ∈ r.activeRules.map Rule.id := by
        simpa using hrest rule rfl
      rw [List.nil_append, registerAll, register_of_mem hmem]
      rfl
  | cons rule kept ih =>
    have hnew : rule.id ∉ r.activeRules.map Rule.id := by
      rw [List.map_append, List.nodup_append] at hkept
      exact fun hmem => hkept.2.2 _ hmem _ List.mem_cons_self rfl
    obtain ⟨r', hregister, hactive⟩ := exists_register hnew
    rw [← List.singleton_append, ← List.append_assoc, ← hactive] at hkept hrest
    have hperform : r.perform (.one rule) = (r', none) := by rw [perform, hregister]
    rw [List.cons_append, registerAll, hregister, List.map_cons, performAll, hperform]
    exact ih hkept hrest

/-! ## What a registry answers -/

/-- The answers of a registry are those that are read off a list of rules with pairwise
different ids. -/
structure Represents (r : Registry) (rules : List Rule) : Prop where
  nodup_ids : (rules.map Rule.id).Nodup
  activeRules_eq : r.activeRules = rules
  size_eq : r.size = rules.length
  isEmpty_eq : r.isEmpty = rules.isEmpty
  get?_eq : ∀ id, r.get? id = rules.find? fun rule => rule.id.text = id
  candidates_eq : ∀ method, r.candidates method = rules.filter fun rule => method ∈ rule.methods
  nodup_candidates : ∀ method, (r.candidates method).Nodup

/-- Among rules with pairwise different ids, the one with an id is the first one with it. -/
theorem find?_of_id (hids : (rules.map Rule.id).Nodup) (hrule : rule ∈ rules) :
    (rules.find? fun r => r.id.text = rule.id.text) = some rule := by
  induction rules with
  | nil => exact nomatch hrule
  | cons first rules ih =>
    obtain ⟨hfirst, hids⟩ := List.nodup_cons.1 hids
    rcases List.mem_cons.1 hrule with rfl | hrule
    · exact List.find?_cons_of_pos (decide_eq_true rfl)
    · have hne : ¬ first.id.text = rule.id.text := fun htext =>
        hfirst (RuleId.ext htext ▸ List.mem_map_of_mem hrule)
      rw [List.find?_cons_of_neg (by simpa using hne), ih hids hrule]

/-- The look-up by id finds the rule with that id. -/
theorem get?_eq_find? (r : Registry) (id : String) :
    r.get? id = r.activeRules.find? fun rule => rule.id.text = id := by
  cases hid : RuleId.ofText id with
  | error e =>
    rw [get?, hid]
    refine (List.find?_eq_none.2 fun rule _ => ?_).symm
    intro htext
    rw [← of_decide_eq_true htext, RuleId.ofText_text] at hid
    exact nomatch hid
  | ok id' =>
    obtain rfl : id'.text = id := RuleId.text_of_ofText hid
    simp only [get?, hid]
    cases hposition : r.positions[id']? with
    | none =>
      refine (List.find?_eq_none.2 fun rule hrule => ?_).symm
      intro htext
      have hmem : id' ∈ r.positions :=
        mem_positions_iff.2 (List.mem_map.2 ⟨rule, hrule, RuleId.ext (of_decide_eq_true htext)⟩)
      rw [Std.HashMap.mem_iff_isSome_getElem?, hposition] at hmem
      exact nomatch hmem
    | some i =>
      obtain ⟨rule, hrule, rfl⟩ := (r.position_iff id' i).1 hposition
      rw [Option.bind_some, hrule]
      exact (find?_of_id r.nodup_ids (Array.mem_toList_iff.2 (Array.mem_of_getElem? hrule))).symm

theorem represents_activeRules (r : Registry) : r.Represents r.activeRules where
  nodup_ids := r.nodup_ids
  activeRules_eq := rfl
  size_eq := r.length_activeRules.symm
  isEmpty_eq := by rw [isEmpty, activeRules, Array.isEmpty_toList]
  get?_eq := r.get?_eq_find?
  candidates_eq := r.candidates_eq
  nodup_candidates method := by
    rw [r.candidates_eq]
    exact List.Nodup.filter _ (List.Nodup.of_map Rule.id r.nodup_ids)

/-- A registry represents the list of its active rules and no other. -/
theorem represents_iff : r.Represents rules ↔ r.activeRules = rules :=
  ⟨Represents.activeRules_eq, fun h => h ▸ r.represents_activeRules⟩

/-! ## A registry beside its list -/

/-- A registry and its list answer a request alike and stay together. -/
theorem Represents.perform (h : r.Represents rules) (request : Registration) :
    (r.perform request).2 = (OrderedRules.perform rules request).2 ∧
      (r.perform request).1.Represents (OrderedRules.perform rules request).1 := by
  obtain rfl := h.activeRules_eq
  cases request with
  | one rule =>
    rw [OrderedRules.perform]
    by_cases hmem : rule.id ∈ r.activeRules.map Rule.id
    · rw [perform_one_of_mem hmem, OrderedRules.put_of_mem hmem]
      exact ⟨rfl, r.represents_activeRules⟩
    · obtain ⟨r', hperform, hactive⟩ := exists_perform_one hmem
      rw [hperform, OrderedRules.put_of_notMem hmem]
      exact ⟨rfl, represents_iff.2 hactive⟩
  | all new =>
    rw [OrderedRules.perform, Registry.perform]
    induction new generalizing r with
    | nil => exact ⟨rfl, r.represents_activeRules⟩
    | cons rule new ih =>
      by_cases hmem : rule.id ∈ r.activeRules.map Rule.id
      · rw [registerAll, register_of_mem hmem, OrderedRules.putAll_cons_of_mem hmem]
        exact ⟨rfl, r.represents_activeRules⟩
      · obtain ⟨r', hregister, hactive⟩ := exists_register hmem
        rw [registerAll, hregister, OrderedRules.putAll_cons_of_notMem hmem, ← hactive]
        exact ih r'.represents_activeRules

/-- So do they through a run of requests. -/
theorem Represents.performAll (h : r.Represents rules) (requests : List Registration) :
    (r.performAll requests).2 = (OrderedRules.performAll rules requests).2 ∧
      (r.performAll requests).1.Represents (OrderedRules.performAll rules requests).1 := by
  induction requests generalizing r rules with
  | nil => exact ⟨rfl, h⟩
  | cons request requests ih =>
    obtain ⟨hanswer, hnext⟩ := h.perform request
    obtain ⟨hanswers, hlast⟩ := ih hnext
    exact ⟨congrArg₂ List.cons hanswer hanswers, hlast⟩

/-- **A registry behaves as a list of rules with pairwise different ids.**  After every
run of requests, refused ones included, the registry has given the answers of the list
and represents it.  In the state that is reached then, a rule with a new id is put at the
end; a rule with an id in use is refused by that id and leaves the registry as it was;
and of several rules exactly those before the first collision are kept, as if they were
registered one by one. -/
theorem performAll_represents (requests : List Registration) :
    let r := (empty.performAll requests).1
    let rules := (OrderedRules.performAll [] requests).1
    (empty.performAll requests).2 = (OrderedRules.performAll [] requests).2 ∧
    r.Represents rules ∧
    (∀ rule, rule.id ∉ rules.map Rule.id →
      ∃ r', r.perform (.one rule) = (r', none) ∧ r'.Represents (rules ++ [rule])) ∧
    (∀ rule, rule.id ∈ rules.map Rule.id →
      r.perform (.one rule) = (r, some ⟨rule.id.text⟩)) ∧
    ∀ new, ∃ kept rest, new = kept ++ rest ∧ ((rules ++ kept).map Rule.id).Nodup ∧
      (∀ rule ∈ rest.head?, rule.id ∈ (rules ++ kept).map Rule.id) ∧
      r.perform (.all new) =
        ((r.performAll (kept.map .one)).1, rest.head?.map fun rule => ⟨rule.id.text⟩) ∧
      (r.performAll (kept.map .one)).1.Represents (rules ++ kept) := by
  intro r rules
  obtain ⟨hanswers, hrepresents⟩ := empty.represents_activeRules.performAll requests
  have hactive : r.activeRules = rules := hrepresents.activeRules_eq
  refine ⟨hanswers, hrepresents, fun rule hnew => ?_, fun rule hmem => ?_, fun new => ?_⟩
  · obtain ⟨r', hperform, hactive'⟩ := exists_perform_one (hactive ▸ hnew)
    exact ⟨r', hperform, represents_iff.2 (hactive'.trans (by rw [hactive]))⟩
  · exact perform_one_of_mem (hactive ▸ hmem)
  · obtain ⟨kept, rest, rfl, hkept, hrest, hputAll⟩ :=
      OrderedRules.exists_putAll_eq hrepresents.nodup_ids new
    have hall : r.perform (.all (kept ++ rest)) =
        ((r.performAll (kept.map .one)).1, rest.head?.map fun rule => ⟨rule.id.text⟩) :=
      registerAll_eq_performAll (hactive ▸ hkept) (hactive ▸ hrest)
    have hstate : (r.performAll (kept.map .one)).1 = (r.perform (.all (kept ++ rest))).1 := by
      rw [hall]
    obtain ⟨-, hlast⟩ := hrepresents.perform (.all (kept ++ rest))
    rw [OrderedRules.perform, hputAll] at hlast
    exact ⟨kept, rest, rfl, hkept, hrest, hall, hstate ▸ hlast⟩

end Registry

end ForbiddenCalls
