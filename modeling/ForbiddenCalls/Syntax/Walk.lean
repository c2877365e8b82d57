import ForbiddenCalls.Syntax.Tree

/-!
# Walking a syntax tree

A walk visits every node once, a node before its children and the children from
left to right.  It keeps the nodes that are still to be visited on a stack, each
with the nodes above it, so that a visitor can climb from a node to the root.
-/

namespace ForbiddenCalls

/-- A node together with the nodes above it, the nearest one first. -/
structure Located where
  tree : Tree
  ancestors : List Tree

namespace Located

/-- The children of a node, each below it. -/
def children (n : Located) : List Located :=
  n.tree.children.map fun t => ⟨t, n.tree :: n.ancestors⟩

/-- The number of nodes at and below the nodes of a stack. -/
def weight (stack : List Located) : Nat := Tree.sizeAll (stack.map Located.tree)

theorem weight_children_append_lt (n : Located) (stack : List Located) :
    weight (n.children ++ stack) < weight (n :: stack) := by
  have h : n.children.map Located.tree = n.tree.children := by
    simp [children, Function.comp_def]
  simp only [weight, List.map_append, List.map_cons, h, Tree.sizeAll_append, Tree.sizeAll,
    Tree.size_eq n.tree]
  omega

end Located

namespace Tree

/-- Visits the nodes of a stack and everything below them. -/
def visitStack {σ : Type} (visit : σ → Located → σ) : List Located → σ → σ
  | [], s => s
  | n :: stack, s => visitStack visit (n.children ++ stack) (visit s n)
  termination_by stack => Located.weight stack
  decreasing_by exact Located.weight_children_append_lt n stack

/-- Visits all nodes of a tree. -/
def visitAll {σ : Type} (visit : σ → Located → σ) (root : Tree) (s : σ) : σ :=
  visitStack visit [⟨root, []⟩] s

mutual

/-- The nodes of a tree in the order of a walk, below given ancestors. -/
def preorder (ancestors : List Tree) : Tree → List Located
  | node i cs => ⟨node i cs, ancestors⟩ :: preorderAll (node i cs :: ancestors) cs

/-- The nodes of a list of trees in the order of a walk. -/
def preorderAll (ancestors : List Tree) : List Tree → List Located
  | [] => []
  | t :: ts => preorder ancestors t ++ preorderAll ancestors ts

end

end Tree

end ForbiddenCalls
