import ForbiddenCalls.Proofs.TreeWalk
import Mathlib.Data.List.Nodup
import Mathlib.Data.List.Pairwise
import Mathlib.Order.Nat

/-!
# Places in a syntax tree

Some nodes of a syntax tree are given an offset, and it is not their own: it is the start of a
token somewhere below.  Nested nodes often start at one byte, so that their own starts would
not tell them apart.  The starts of the tokens do, if the spans of the tree are nested
(`Tree.Nested`) and every token is reached without passing another node with an offset
(`Tree.Below`).

* `Tree.mem_offsets_span`: the offsets that a tree contains are within its span.
* `Tree.Below.start_not_mem`: the offset of a node is not used again below it.
* `Tree.nodup_offsets`: **the offsets in a tree are pairwise different.**
-/

namespace ForbiddenCalls

namespace Tree

/-- The children of every node lie within its span, one behind the other. -/
structure Nested (t : Tree) : Prop where
  within : ∀ n ∈ t.nodes, ∀ c ∈ n.children, n.start ≤ c.start ∧ c.stop ≤ n.stop
  apart : ∀ n ∈ t.nodes, n.children.Pairwise fun c d => c.stop ≤ d.start

/-- A node without children that is not empty. -/
structure IsToken (t : Tree) : Prop where
  children_eq : t.children = []
  nonempty : t.start < t.stop

instance (t : Tree) : Decidable t.Nested :=
  decidable_of_iff ((∀ n ∈ t.nodes, ∀ c ∈ n.children, n.start ≤ c.start ∧ c.stop ≤ n.stop) ∧
      ∀ n ∈ t.nodes, n.children.Pairwise fun c d => c.stop ≤ d.start)
    ⟨fun h => ⟨h.1, h.2⟩, fun h => ⟨h.within, h.apart⟩⟩

instance (t : Tree) : Decidable t.IsToken :=
  decidable_of_iff (t.children.isEmpty = true ∧ t.start < t.stop)
    ⟨fun h => ⟨List.isEmpty_iff.1 h.1, h.2⟩,
      fun h => ⟨List.isEmpty_iff.2 h.children_eq, h.nonempty⟩⟩

/-- A node lies below another one, and no node between them is given an offset. -/
inductive Below (offset? : Tree → Option Nat) : Tree → Tree → Prop
  | child {t n : Tree} : n ∈ t.children → Below offset? t n
  | deeper {t m n : Tree} : m ∈ t.children → offset? m = none → Below offset? m n →
      Below offset? t n

/-- Every offset that a node is given is the start of a token below it. -/
def PlacedByTokens (offset? : Tree → Option Nat) (t : Tree) : Prop :=
  ∀ n ∈ t.nodes, ∀ o, offset? n = some o →
    ∃ token, Below offset? n token ∧ token.IsToken ∧ offset? token = none ∧ token.start = o

/-- The offsets in a tree, in the order of a walk. -/
def offsets (offset? : Tree → Option Nat) (t : Tree) : List Nat := t.nodes.filterMap offset?

variable {offset? : Tree → Option Nat} {t c d n token : Tree} {o : Nat}

/-! ## From a tree to its children -/

theorem Nested.of_mem_children (h : t.Nested) (hc : c ∈ t.children) : c.Nested where
  within n hn := h.within n (mem_nodes_of_mem_children hc hn)
  apart n hn := h.apart n (mem_nodes_of_mem_children hc hn)

/-- Different children have no place in common. -/
theorem Nested.apart_of_ne (h : t.Nested) (hc : c ∈ t.children) (hd : d ∈ t.children)
    (hne : c ≠ d) : c.stop ≤ d.start ∨ d.stop ≤ c.start := by
  have hapart : t.children.Pairwise fun c d => c.stop ≤ d.start ∨ d.stop ≤ c.start :=
    (h.apart t t.self_mem_nodes).imp Or.inl
  have hsymm : Std.Symm fun c d : Tree => c.stop ≤ d.start ∨ d.stop ≤ c.start :=
    ⟨fun _ _ => Or.symm⟩
  exact hapart.forall hc hd hne

theorem PlacedByTokens.of_mem_children (h : t.PlacedByTokens offset?) (hc : c ∈ t.children) :
    c.PlacedByTokens offset? :=
  fun n hn => h n (mem_nodes_of_mem_children hc hn)

theorem offsets_eq (offset? : Tree → Option Nat) (t : Tree) :
    t.offsets offset? = (offset? t).toList ++ t.children.flatMap (offsets offset?) := by
  rw [offsets, nodes_eq, Extractor.filterMap_cons_eq_append, List.filterMap_flatMap]
  rfl

/-- A node without an offset has the offsets of its children. -/
theorem offsets_of_eq_none (h : offset? t = none) :
    t.offsets offset? = t.children.flatMap (offsets offset?) := by
  rw [offsets_eq, h, Option.toList_none, List.nil_append]

/-! ## Spans -/

/-- What lies below a node lies within its span. -/
theorem Below.span (hn : Below offset? t n) (h : t.Nested) :
    t.start ≤ n.start ∧ n.stop ≤ t.stop := by
  induction hn with
  | child hmem => exact h.within _ (self_mem_nodes _) _ hmem
  | deeper hmem _ _ ih =>
    obtain ⟨hstart, hstop⟩ := h.within _ (self_mem_nodes _) _ hmem
    obtain ⟨hstart', hstop'⟩ := ih (h.of_mem_children hmem)
    exact ⟨hstart.trans hstart', hstop'.trans hstop⟩

/-- The offsets in a tree are within its span. -/
theorem mem_offsets_span (h : t.Nested) (hplaced : t.PlacedByTokens offset?)
    (ho : o ∈ t.offsets offset?) : t.start ≤ o ∧ o < t.stop := by
  induction t using Tree.induction with
  | node i cs ih =>
    rw [offsets_eq, List.mem_append, Option.mem_toList, List.mem_flatMap] at ho
    rcases ho with ho | ⟨c, hc, ho⟩
    · obtain ⟨token, hbelow, htoken, -, rfl⟩ := hplaced _ (self_mem_nodes _) o ho
      obtain ⟨hstart, hstop⟩ := hbelow.span h
      exact ⟨hstart, htoken.nonempty.trans_le hstop⟩
    · obtain ⟨hstart, hstop⟩ := h.within _ (self_mem_nodes _) c hc
      obtain ⟨hle, hlt⟩ := ih c hc (h.of_mem_children hc) (hplaced.of_mem_children hc) ho
      exact ⟨hstart.trans hle, hlt.trans_le hstop⟩

/-- A place in one child is not an offset in another one. -/
theorem not_mem_offsets_of_ne (h : t.Nested) (hplaced : t.PlacedByTokens offset?)
    (hc : c ∈ t.children) (hd : d ∈ t.children) (hne : c ≠ d) (ho : c.start ≤ o ∧ o < c.stop) :
    o ∉ d.offsets offset? := by
  intro hmem
  have hspan := mem_offsets_span (h.of_mem_children hd) (hplaced.of_mem_children hd) hmem
  have hapart := h.apart_of_ne hc hd hne
  omega

/-! ## Different offsets -/

/-- The start of a token below a node is no offset in the children of the node.  The induction
goes down to the token: the other children are apart from the one that it lies in. -/
theorem Below.start_not_mem (hbelow : Below offset? t token) (h : t.Nested)
    (hplaced : t.PlacedByTokens offset?) (htoken : token.IsToken) (hnone : offset? token = none) :
    token.start ∉ t.children.flatMap (offsets offset?) := by
  rw [List.mem_flatMap]
  rintro ⟨d, hd, ho⟩
  induction hbelow generalizing d with
  | @child t token hc =>
    by_cases hne : token = d
    · subst hne
      rw [offsets_of_eq_none hnone, htoken.children_eq] at ho
      exact List.not_mem_nil ho
    · exact not_mem_offsets_of_ne h hplaced hc hd hne ⟨le_rfl, htoken.nonempty⟩ ho
  | @deeper t m token hm hmark hbelow ih =>
    by_cases hne : m = d
    · subst hne
      rw [offsets_of_eq_none hmark, List.mem_flatMap] at ho
      obtain ⟨d', hd', ho'⟩ := ho
      exact ih (h.of_mem_children hm) (hplaced.of_mem_children hm) htoken hnone _ hd' ho'
    · obtain ⟨hstart, hstop⟩ := hbelow.span (h.of_mem_children hm)
      exact not_mem_offsets_of_ne h hplaced hm hd hne
        ⟨hstart, htoken.nonempty.trans_le hstop⟩ ho

/-- **The offsets in a tree are pairwise different.** -/
theorem nodup_offsets (h : t.Nested) (hplaced : t.PlacedByTokens offset?) :
    (t.offsets offset?).Nodup := by
  induction t using Tree.induction with
  | node i cs ih =>
    have hchildren : ((node i cs).children.flatMap (offsets offset?)).Nodup := by
      refine List.nodup_flatMap.2 ⟨fun c hc => ?_, ?_⟩
      · exact ih c hc (h.of_mem_children hc) (hplaced.of_mem_children hc)
      · refine (h.apart _ (self_mem_nodes _)).imp_of_mem fun hc hd hle o hoc hod => ?_
        have hspan := mem_offsets_span (h.of_mem_children hc) (hplaced.of_mem_children hc) hoc
        have hspan' := mem_offsets_span (h.of_mem_children hd) (hplaced.of_mem_children hd) hod
        omega
    rw [offsets_eq]
    cases ho : offset? (node i cs) with
    | none => exact hchildren
    | some o =>
      obtain ⟨token, hbelow, htoken, hnone, rfl⟩ := hplaced _ (self_mem_nodes _) o ho
      exact List.nodup_cons.2 ⟨hbelow.start_not_mem h hplaced htoken hnone, hchildren⟩

end Tree

end ForbiddenCalls
