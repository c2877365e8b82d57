import ForbiddenCalls.Proofs.DistinctCalls
import ForbiddenCalls.Proofs.TreeAddresses
import Mathlib.Data.List.Sort

/-!
# The order of a walk

A walk is a loop over a stack: the node on top is visited, and its children are put in its
place.  What is still to be visited is therefore not the stack but what the pre-orders of its
trees have in them, and that loses its first node in every round (`Tree.pending_walkStep`).
So the loop comes to its end after as many rounds as the tree has nodes, and has by then
visited them in the order of their addresses: each once, a node before those below it, and
what is below one child before what is below a later one.

* `Tree.walkStep`: one round of the loop, and `Tree.visitStack_walkStep`: a walk goes on from
  where a round has left it.
* `Tree.iterate_walkStep`: what was visited and what is left after some rounds.
* `Extractor.sublist_calls`: a call comes before the calls in it.
* `Extractor.walk_in_preorder`: the rounds of a walk, and the facts that it collects.
-/

namespace ForbiddenCalls

namespace Tree

variable {σ : Type}

/-! ## Rounds -/

/-- One round of the loop over a stack, with what the visits have come to so far. -/
def walkStep (visit : σ → Located → σ) : List Located × σ → List Located × σ
  | ([], s) => ([], s)
  | (n :: stack, s) => (n.children ++ stack, visit s n)

theorem visitStack_walkStep (visit : σ → Located → σ) (state : List Located × σ) :
    visitStack visit (walkStep visit state).1 (walkStep visit state).2 =
      visitStack visit state.1 state.2 := by
  obtain ⟨_ | ⟨n, stack⟩, s⟩ := state
  · rfl
  · rw [walkStep, visitStack]

/-- **A round visits the first node that is left to visit.** -/
theorem pending_walkStep (visit : σ → Located → σ) (state : List Located × σ) :
    pending (walkStep visit state).1 = (pending state.1).drop 1 ∧
      (walkStep visit state).2 = ((pending state.1).take 1).foldl visit state.2 := by
  obtain ⟨_ | ⟨n, stack⟩, s⟩ := state
  · exact ⟨rfl, rfl⟩
  · rw [walkStep, pending_cons]
    exact ⟨rfl, rfl⟩

/-- **After some rounds** as many nodes were visited, and the others are left to visit. -/
theorem iterate_walkStep (visit : σ → Located → σ) (k : Nat) (state : List Located × σ) :
    pending ((walkStep visit)^[k] state).1 = (pending state.1).drop k ∧
      ((walkStep visit)^[k] state).2 = ((pending state.1).take k).foldl visit state.2 := by
  induction k generalizing state with
  | zero => exact ⟨rfl, rfl⟩
  | succ k ih =>
    obtain ⟨hleft, hvisited⟩ := pending_walkStep visit state
    obtain ⟨hlefts, hvisits⟩ := ih (walkStep visit state)
    rw [Function.iterate_succ_apply, Nat.add_comm k 1]
    refine ⟨?_, ?_⟩
    · rw [hlefts, hleft, List.drop_drop]
    · rw [hvisits, hleft, hvisited, List.take_add, List.foldl_append]

theorem visitStack_iterate (visit : σ → Located → σ) (k : Nat) (state : List Located × σ) :
    visitStack visit ((walkStep visit)^[k] state).1 ((walkStep visit)^[k] state).2 =
      visitStack visit state.1 state.2 := by
  induction k generalizing state with
  | zero => rfl
  | succ k ih => rw [Function.iterate_succ_apply, ih, visitStack_walkStep]

/-- Nothing is left to visit when nothing is on the stack, and only then. -/
theorem pending_eq_nil_iff {stack : List Located} : pending stack = [] ↔ stack = [] := by
  cases stack with
  | nil => exact iff_of_true rfl rfl
  | cons n stack =>
    rw [pending_cons]
    exact iff_of_false (List.cons_ne_nil _ _) (List.cons_ne_nil _ _)

/-- **The rounds of a walk.**  There are as many as the tree has nodes, and after some of them
the nodes at the first addresses were visited. -/
theorem iterate_walkStep_root (visit : σ → Located → σ) (root : Tree) (s : σ) (k : Nat) :
    (((walkStep visit)^[k] ([⟨root, []⟩], s)).1 = [] ↔ root.size ≤ k) ∧
      ((walkStep visit)^[k] ([⟨root, []⟩], s)).2 =
        ((root.addresses.take k).filterMap root.located?).foldl visit s := by
  obtain ⟨hleft, hvisited⟩ := iterate_walkStep visit k ([⟨root, []⟩], s)
  dsimp only at hleft hvisited
  rw [pending_root] at hleft hvisited
  refine ⟨?_, ?_⟩
  · rw [← pending_eq_nil_iff, hleft, List.drop_eq_nil_iff, length_preorder]
  · rw [hvisited, take_preorder]

/-- A node comes before the nodes below it. -/
theorem sublist_addresses {root t u : Tree} {a b : Address} (hab : a <+: b) (hne : a ≠ b)
    (ha : root.descend? a = some t) (hb : root.descend? b = some u) :
    [a, b].Sublist root.addresses := by
  have hlt : a < b := by
    obtain ⟨rest, rfl⟩ := hab
    cases rest with
    | nil => exact absurd (List.append_nil a).symm hne
    | cons i rest =>
      have hlonger : a ++ [] < a ++ i :: rest := List.append_left_lt (List.nil_lt_cons i rest)
      rwa [List.append_nil] at hlonger
  have hsubset : [a, b] ⊆ root.addresses := by
    intro c hc
    rcases List.mem_pair.1 hc with rfl | rfl
    · exact mem_addresses_iff.2 ⟨t, ha⟩
    · exact mem_addresses_iff.2 ⟨u, hb⟩
  have hsubperm := List.subperm_of_subset (List.pairwise_pair.2 hne) hsubset
  exact List.sublist_of_subperm_of_pairwise hsubperm (List.pairwise_pair.2 hlt)
    root.pairwise_addresses

end Tree

namespace Extractor

variable {x : Extractor} {s : Source} {root t u : Tree} {a b : Address} {c d : RawCall}

/-! ## Facts -/

theorem imports_eq_flatMap (x : Extractor) (s : Source) (root : Tree) :
    (x.facts s root).imports = root.nodes.flatMap fun t => (x.importOf? s t).toList := by
  rw [facts_eq, Tree.nodes, List.flatMap_map, List.filterMap_eq_flatMap_toList]

theorem typedVariables_eq_flatMap (x : Extractor) (s : Source) (root : Tree) :
    (x.facts s root).typedVariables = root.nodes.flatMap (x.variablesOf s) := by
  rw [facts_eq, Tree.nodes, List.flatMap_map]

theorem calls_eq_filterMap (x : Extractor) (s : Source) (root : Tree) :
    (x.facts s root).calls = root.nodes.filterMap (x.callOf? s) := by
  rw [facts_eq, Tree.nodes, List.filterMap_map]
  rfl

/-- **A call comes before the calls in it.** -/
theorem sublist_calls (hab : a <+: b) (hne : a ≠ b) (ha : root.descend? a = some t)
    (hb : root.descend? b = some u) (hc : x.callOf? s t = some c) (hd : x.callOf? s u = some d) :
    [c, d].Sublist (x.facts s root).calls := by
  have hnodes := (Tree.sublist_addresses hab hne ha hb).filterMap fun e =>
    (root.descend? e).bind (x.callOf? s)
  have hpair : [a, b].filterMap (fun e => (root.descend? e).bind (x.callOf? s)) = [c, d] := by
    simp [ha, hb, hc, hd]
  rwa [hpair, ← List.filterMap_filterMap, ← Tree.nodes_eq_filterMap, ← calls_eq_filterMap]
    at hnodes

/-- **A walk visits every node once**, in the order of the addresses: a node before those below
it, and what is below one child before what is below a later one.  It comes to its end after as
many rounds as there are nodes and not before, whatever the visits do.  So the imports,
variables and calls of a file are what its nodes contribute, one node after the other, and a
call comes before the calls in it. -/
theorem walk_in_preorder (x : Extractor) (s : Source) (root : Tree) :
    (root.addresses.Pairwise (· < ·) ∧ root.addresses.length = root.size ∧
      ∀ a, a ∈ root.addresses ↔ ∃ t, root.descend? a = some t) ∧
    (∀ {σ : Type} (visit : σ → Located → σ) (start : σ) (k : Nat),
      let state := (Tree.walkStep visit)^[k] ([⟨root, []⟩], start);
      (state.1 = [] ↔ root.size ≤ k) ∧
      state.2 = ((root.addresses.take k).filterMap root.located?).foldl visit start ∧
      Tree.visitStack visit state.1 state.2 = root.visitAll visit start) ∧
    (let nodes := root.addresses.filterMap root.descend?;
      (x.facts s root).imports = nodes.flatMap (fun t => (x.importOf? s t).toList) ∧
      (x.facts s root).typedVariables = nodes.flatMap (x.variablesOf s) ∧
      (x.facts s root).calls = nodes.flatMap fun t => (x.callOf? s t).toList) ∧
    ∀ {a b : Address} {t u : Tree} {c d : RawCall}, a <+: b → a ≠ b →
      root.descend? a = some t → root.descend? b = some u →
      x.callOf? s t = some c → x.callOf? s u = some d → [c, d].Sublist (x.facts s root).calls := by
  refine ⟨⟨root.pairwise_addresses, root.length_addresses, fun a => Tree.mem_addresses_iff⟩,
    fun visit start k => ?_, ?_, sublist_calls⟩
  · obtain ⟨hend, hvisited⟩ := Tree.iterate_walkStep_root visit root start k
    exact ⟨hend, hvisited, Tree.visitStack_iterate visit k _⟩
  · dsimp only
    rw [← Tree.nodes_eq_filterMap, calls_eq_filterMap, List.filterMap_eq_flatMap_toList]
    exact ⟨imports_eq_flatMap x s root, typedVariables_eq_flatMap x s root, rfl⟩

end Extractor

namespace ChainExample

/-- The call of the chain that has the other one for its receiver. -/
def outerCall : RawCall := ⟨some "a.L.b(a.L.c())", "d", 1, 16, 15, 3⟩

/-- The call that is the receiver. -/
def innerCall : RawCall := ⟨some "a.L", "b", 1, 5, 4, 10⟩

/-- The instance of a chain of two calls: the one in front lies in the one behind it, and comes
after it. -/
theorem walk_in_preorder_chain :
    (∃ t u, javaTree.descend? [0, 0] = some t ∧ javaTree.descend? [0, 0, 0] = some u ∧
      Java.callOf? (.ofText text) t = some outerCall ∧
      Java.callOf? (.ofText text) u = some innerCall) ∧
    [outerCall, innerCall].Sublist (Java.extractor.facts (.ofText text) javaTree).calls := by
  obtain ⟨-, -, -, hnested⟩ := Extractor.walk_in_preorder Java.extractor (.ofText text) javaTree
  have hwithin : [0, 0] <+: [0, 0, 0] := ⟨[0], rfl⟩
  obtain ⟨t, ht⟩ : ∃ t, javaTree.descend? [0, 0] = some t := ⟨_, rfl⟩
  obtain ⟨u, hu⟩ : ∃ u, javaTree.descend? [0, 0, 0] = some u := ⟨_, rfl⟩
  have houter : (javaTree.descend? [0, 0]).bind (Java.callOf? (.ofText text)) = some outerCall := by
    decide +kernel
  have hinner : (javaTree.descend? [0, 0, 0]).bind (Java.callOf? (.ofText text)) =
      some innerCall := by
    decide +kernel
  rw [ht, Option.bind_some] at houter
  rw [hu, Option.bind_some] at hinner
  exact ⟨⟨t, u, ht, hu, houter, hinner⟩, hnested hwithin (by decide) ht hu houter hinner⟩

end ChainExample

end ForbiddenCalls
