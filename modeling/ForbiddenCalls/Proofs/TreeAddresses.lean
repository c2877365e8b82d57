import ForbiddenCalls.Proofs.TreeWalk
import Mathlib.Data.List.Lex
import Mathlib.Data.List.Pairwise

/-!
# Addresses in a tree

Two nodes of a tree may look alike, down to their children and the nodes above them, so a
statement about every node needs another way to tell nodes apart.  The *address* of a node is
the way to it from the root: each number says which child comes next.  The addresses in front
of an address are those of the nodes above.

In the lexicographic order of addresses a node comes before everything below it, and what is
below one child comes before what is below a later one.

* `Tree.mem_addresses_iff`, `Tree.pairwise_addresses`: the addresses of the nodes of a tree, in
  lexicographic order.
* `Tree.map_some_preorder`: the pre-order of a tree has the nodes in the order of their
  addresses.
* `Tree.above_cons`: the nodes above a node, from the nodes above it in a subtree.
-/

namespace ForbiddenCalls

/-- The way from the root of a tree to a node: each number says which child comes next. -/
abbrev Address : Type := List Nat

namespace Tree

variable {t c : Tree} {a rest : Address} {i : Nat}

/-- The node at an address. -/
def descend? (t : Tree) : Address → Option Tree
  | [] => some t
  | i :: rest => t.children[i]?.bind fun c => c.descend? rest

/-- The nodes above an address, the root first: those at the shorter addresses on the way. -/
def above (t : Tree) (a : Address) : List Tree :=
  (List.range a.length).filterMap fun k => t.descend? (a.take k)

/-- The node at an address, with the nodes above it. -/
def located? (t : Tree) (a : Address) : Option Located :=
  (t.descend? a).map fun n => ⟨n, (t.above a).reverse⟩

mutual

/-- The addresses of the nodes of a tree. -/
def addresses : Tree → List Address
  | node _ cs => [] :: addressesFrom 0 cs

/-- The addresses of the nodes below the children of a node, given the place of the first
child. -/
def addressesFrom (i : Nat) : List Tree → List Address
  | [] => []
  | c :: cs => c.addresses.map (i :: ·) ++ addressesFrom (i + 1) cs

end

@[simp] theorem descend?_nil (t : Tree) : t.descend? [] = some t := rfl

theorem descend?_cons (h : t.children[i]? = some c) (rest : Address) :
    t.descend? (i :: rest) = c.descend? rest := by
  rw [descend?, h, Option.bind_some]

theorem addresses_eq (t : Tree) : t.addresses = [] :: addressesFrom 0 t.children := by
  cases t
  rw [addresses, children_node]

/-- The nodes above an address below a child. -/
theorem above_cons (h : t.children[i]? = some c) (rest : Address) :
    t.above (i :: rest) = t :: c.above rest := by
  have hrest : ∀ k, t.descend? ((i :: rest).take (k + 1)) = c.descend? (rest.take k) := by
    intro k
    rw [List.take_succ_cons, descend?_cons h]
  rw [above, List.length_cons, List.range_succ_eq_map,
    List.filterMap_cons_some (by rw [List.take_zero, descend?_nil]), List.filterMap_map, above]
  congr 1
  exact List.filterMap_congr fun k _ => hrest k

/-! ## All addresses, in lexicographic order -/

theorem mem_addressesFrom_iff {cs : List Tree} :
    a ∈ addressesFrom i cs ↔
      ∃ k c rest, a = (i + k) :: rest ∧ cs[k]? = some c ∧ rest ∈ c.addresses := by
  induction cs generalizing i with
  | nil => simp [addressesFrom]
  | cons c cs ih =>
    rw [addressesFrom, List.mem_append, List.mem_map, ih]
    constructor
    · rintro (⟨rest, hrest, rfl⟩ | ⟨k, d, rest, rfl, hd, hrest⟩)
      · exact ⟨0, c, rest, rfl, rfl, hrest⟩
      · exact ⟨k + 1, d, rest, by rw [Nat.add_right_comm, Nat.add_assoc], hd, hrest⟩
    · rintro ⟨_ | k, d, rest, rfl, hd, hrest⟩
      · obtain rfl : c = d := Option.some.inj hd
        exact .inl ⟨rest, hrest, rfl⟩
      · exact .inr ⟨k, d, rest, by rw [Nat.add_right_comm, Nat.add_assoc], hd, hrest⟩

/-- **Every node has its address**, and there are no others. -/
theorem mem_addresses_iff : a ∈ t.addresses ↔ ∃ n, t.descend? a = some n := by
  induction a generalizing t with
  | nil => simp [addresses_eq]
  | cons i rest ih =>
    have hroot : i :: rest ≠ [] := List.cons_ne_nil i rest
    rw [addresses_eq, List.mem_cons, or_iff_right hroot, mem_addressesFrom_iff]
    constructor
    · rintro ⟨k, c, rest', heq, hc, hrest⟩
      rw [Nat.zero_add] at heq
      obtain ⟨rfl, rfl⟩ := List.cons.inj heq
      rw [descend?_cons hc]
      exact ih.1 hrest
    · rintro ⟨n, hn⟩
      obtain ⟨c, hc, hn⟩ := Option.bind_eq_some_iff.1 hn
      exact ⟨i, c, rest, by rw [Nat.zero_add], hc, ih.2 ⟨n, hn⟩⟩

theorem pairwise_addressesFrom {cs : List Tree}
    (h : ∀ c ∈ cs, c.addresses.Pairwise (· < ·)) : (addressesFrom i cs).Pairwise (· < ·) := by
  induction cs generalizing i with
  | nil => exact List.Pairwise.nil
  | cons c cs ih =>
    rw [addressesFrom, List.pairwise_append]
    refine ⟨?_, ih fun d hd => h d (List.mem_cons_of_mem c hd), ?_⟩
    · refine List.pairwise_map.2 ((h c List.mem_cons_self).imp fun hlt => ?_)
      exact List.cons_lt_cons_iff.2 (.inr ⟨rfl, hlt⟩)
    · -- the first numbers differ already
      intro a ha b hb
      obtain ⟨rest, -, rfl⟩ := List.mem_map.1 ha
      obtain ⟨k, d, rest', rfl, -, -⟩ := mem_addressesFrom_iff.1 hb
      exact List.cons_lt_cons_iff.2 (.inl (by omega))

/-- **The addresses stand in lexicographic order**, and so each of them once. -/
theorem pairwise_addresses (t : Tree) : t.addresses.Pairwise (· < ·) := by
  induction t using Tree.induction with
  | node i cs ih =>
    rw [addresses, List.pairwise_cons]
    refine ⟨fun a ha => ?_, pairwise_addressesFrom ih⟩
    obtain ⟨k, c, rest, rfl, -, -⟩ := mem_addressesFrom_iff.1 ha
    exact List.nil_lt_cons _ _

/-! ## The pre-order -/

/-- The node at an address of a tree that lies below given ancestors. -/
def locatedBelow? (ancestors : List Tree) (t : Tree) (a : Address) : Option Located :=
  (t.descend? a).map fun n => ⟨n, (t.above a).reverse ++ ancestors⟩

theorem located?_eq (t : Tree) (a : Address) : t.located? a = locatedBelow? [] t a := by
  simp only [located?, locatedBelow?, List.append_nil]

theorem locatedBelow?_cons (ancestors : List Tree) (h : t.children[i]? = some c)
    (rest : Address) :
    locatedBelow? ancestors t (i :: rest) = locatedBelow? (t :: ancestors) c rest := by
  rw [locatedBelow?, locatedBelow?, descend?_cons h, above_cons h, List.reverse_cons,
    List.append_assoc, List.singleton_append]

/-- What is below the children from some place on, if it is so for each of them. -/
theorem map_some_preorderAll {ancestors cs : List Tree}
    (hcs : ∀ k, t.children[i + k]? = cs[k]?)
    (h : ∀ c ∈ cs, (preorder (t :: ancestors) c).map some =
      c.addresses.map (locatedBelow? (t :: ancestors) c)) :
    (preorderAll (t :: ancestors) cs).map some =
      (addressesFrom i cs).map (locatedBelow? ancestors t) := by
  induction cs generalizing i with
  | nil => rfl
  | cons c cs ih =>
    have hfirst : t.children[i]? = some c := hcs 0
    have hlater : ∀ k, t.children[i + 1 + k]? = cs[k]? := by
      intro k
      rw [Nat.add_right_comm, Nat.add_assoc]
      exact hcs (k + 1)
    rw [preorderAll, addressesFrom, List.map_append, List.map_append, h c List.mem_cons_self,
      ih hlater fun d hd => h d (List.mem_cons_of_mem c hd), List.map_map]
    congr 1
    exact List.map_congr_left fun rest _ => (locatedBelow?_cons ancestors hfirst rest).symm

theorem map_some_preorder_below (t : Tree) : ∀ ancestors, (preorder ancestors t).map some =
    t.addresses.map (locatedBelow? ancestors t) := by
  induction t using Tree.induction with
  | node i cs ih =>
    intro ancestors
    have hchildren : ∀ k, (node i cs).children[0 + k]? = cs[k]? := by
      intro k
      rw [Nat.zero_add, children_node]
    rw [preorder, addresses, List.map_cons, List.map_cons,
      map_some_preorderAll hchildren fun c hc => ih c hc (node i cs :: ancestors)]
    rfl

/-- **The pre-order has the nodes in the order of their addresses.** -/
theorem map_some_preorder (t : Tree) :
    (preorder [] t).map some = t.addresses.map t.located? := by
  rw [map_some_preorder_below]
  exact List.map_congr_left fun a _ => (located?_eq t a).symm

/-- The first nodes of the pre-order. -/
theorem take_preorder (t : Tree) (k : Nat) :
    (preorder [] t).take k = (t.addresses.take k).filterMap t.located? := by
  have hsome : ((preorder [] t).take k).map some = (t.addresses.take k).map t.located? := by
    rw [List.map_take, map_some_preorder, List.map_take]
  calc (preorder [] t).take k
      = (((preorder [] t).take k).map some).filterMap id := by
        rw [List.filterMap_map, Function.id_comp, List.filterMap_some]
    _ = (t.addresses.take k).filterMap t.located? := by
        rw [hsome, List.filterMap_map, Function.id_comp]

/-- The pre-order, read off the addresses. -/
theorem preorder_eq_filterMap (t : Tree) : preorder [] t = t.addresses.filterMap t.located? := by
  have hall := t.take_preorder (max (preorder [] t).length t.addresses.length)
  rwa [List.take_of_length_le (Nat.le_max_left _ _),
    List.take_of_length_le (Nat.le_max_right _ _)] at hall

/-- The nodes of a tree, read off the addresses. -/
theorem nodes_eq_filterMap (t : Tree) : t.nodes = t.addresses.filterMap t.descend? := by
  rw [nodes, preorder_eq_filterMap, List.map_filterMap]
  refine List.filterMap_congr fun a _ => ?_
  rw [located?, Option.map_map]
  exact Option.map_id'

/-! ## The number of nodes -/

theorem length_preorderAll {ancestors cs : List Tree}
    (h : ∀ c ∈ cs, (preorder ancestors c).length = c.size) :
    (preorderAll ancestors cs).length = sizeAll cs := by
  induction cs with
  | nil => rfl
  | cons c cs ih =>
    rw [preorderAll, List.length_append, h c List.mem_cons_self,
      ih fun d hd => h d (List.mem_cons_of_mem c hd), sizeAll]

theorem length_preorder (t : Tree) : ∀ ancestors, (preorder ancestors t).length = t.size := by
  induction t using Tree.induction with
  | node i cs ih =>
    intro ancestors
    rw [preorder, List.length_cons, length_preorderAll fun c hc => ih c hc _, size]

/-- There are as many addresses as nodes. -/
theorem length_addresses (t : Tree) : t.addresses.length = t.size := by
  have hlength := congrArg List.length t.map_some_preorder
  rw [List.length_map, List.length_map, length_preorder] at hlength
  exact hlength.symm

end Tree

end ForbiddenCalls
