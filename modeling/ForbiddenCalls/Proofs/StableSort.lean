import Mathlib.Data.List.Nodup
import Mathlib.Data.List.Pairwise
import Mathlib.Data.List.Perm.Basic

/-!
# Stable sorting by a comparison

Findings and failures are listed by a merge sort whose comparison looks at a part
of their data only, so that different entries may tie.  A tie is settled by the
order in which the entries came in.  This file says what that means for the
result.

* `filter_sortBy`, `pairwise_tied_sortBy`: entries that tie keep their order.
* `sortBy_eq_sortBy_iff`: two lists have the same sorted list exactly when they
  agree on every class of tied entries.
* `sortBy_sortBy_append`: entries may be added to a list before or after it is sorted.
* `sortBy_filter`, `sortBy_map`: selections, and changes that the comparison does not
  see, may be made before or after sorting.
* `sortBy_eq_of_perm` and `pairwise_of_sortBy_reverse`: the order in which the
  entries came in does not matter exactly when no two of them tie.
-/

namespace ForbiddenCalls

variable {α : Type*}

/-- A list in the order of a comparison; entries that tie keep their order. -/
def sortBy (cmp : α → α → Ordering) (l : List α) : List α :=
  l.mergeSort fun a b => (cmp a b).isLE

/-- Whether an entry compares as equal to `x`. -/
def tied (cmp : α → α → Ordering) (x a : α) : Bool := cmp x a == .eq

@[simp] theorem tied_iff {cmp : α → α → Ordering} {x a : α} :
    tied cmp x a = true ↔ cmp x a = .eq := by
  simp [tied]

theorem perm_sortBy (cmp : α → α → Ordering) (l : List α) : (sortBy cmp l).Perm l :=
  List.mergeSort_perm l _

@[simp] theorem mem_sortBy {cmp : α → α → Ordering} {l : List α} {a : α} :
    a ∈ sortBy cmp l ↔ a ∈ l :=
  (perm_sortBy cmp l).mem_iff

variable (cmp : α → α → Ordering) [Std.TransCmp cmp]

/-! ## What sorting does -/

theorem isLE_total (a b : α) : ((cmp a b).isLE || (cmp b a).isLE) = true := by
  rw [show cmp b a = (cmp a b).swap from Std.OrientedCmp.eq_swap]
  cases cmp a b <;> rfl

theorem pairwise_sortBy (l : List α) : (sortBy cmp l).Pairwise fun a b => (cmp a b).isLE = true :=
  List.pairwise_mergeSort (fun _ _ _ => Std.TransCmp.isLE_trans) (isLE_total cmp) l

/-- **Entries that tie keep their order.**  A selection of entries no two of which
are out of order is read off the list as it came in. -/
theorem filter_sortBy {p : α → Bool} {l : List α}
    (hp : (l.filter p).Pairwise fun a b => (cmp a b).isLE = true) :
    (sortBy cmp l).filter p = l.filter p := by
  have hsub : (l.filter p).Sublist (sortBy cmp l) :=
    List.sublist_mergeSort (fun _ _ _ => Std.TransCmp.isLE_trans) (isLE_total cmp) hp
      List.filter_sublist
  have hfilter := hsub.filter p
  rw [List.filter_filter] at hfilter
  simp only [Bool.and_self] at hfilter
  exact (hfilter.eq_of_length ((perm_sortBy cmp l).filter p).length_eq.symm).symm

/-- Entries that tie with `x` tie with each other. -/
theorem isLE_of_tied {x a b : α} (ha : tied cmp x a = true) (hb : tied cmp x b = true) :
    (cmp a b).isLE = true := by
  rw [tied_iff] at ha hb
  exact Ordering.isLE_of_eq_eq (Std.TransCmp.eq_trans (Std.OrientedCmp.eq_symm ha) hb)

theorem filter_tied_sortBy (x : α) (l : List α) :
    (sortBy cmp l).filter (tied cmp x) = l.filter (tied cmp x) :=
  filter_sortBy cmp (List.pairwise_of_forall_mem_list fun _ ha _ hb =>
    isLE_of_tied cmp (List.of_mem_filter ha) (List.of_mem_filter hb))

/-- Entries that tie keep whatever order they came in. -/
theorem pairwise_tied_sortBy {R : α → α → Prop} {l : List α} (h : l.Pairwise R) :
    (sortBy cmp l).Pairwise fun a b => cmp a b = .eq → R a b := by
  rw [List.pairwise_iff_forall_sublist]
  intro a b hsub htie
  have ha : tied cmp a a = true := tied_iff.2 Std.ReflCmp.compare_self
  have hb : tied cmp a b = true := tied_iff.2 htie
  have hclass := hsub.filter (tied cmp a)
  rw [filter_tied_sortBy, List.filter_cons_of_pos ha, List.filter_cons_of_pos hb,
    List.filter_nil] at hclass
  exact List.pairwise_iff_forall_sublist.1 h (hclass.trans List.filter_sublist)

/-! ## Sorted lists are known by their ties -/

/-- In two sorted lists that agree on every class of tied entries, the first
entries are the same: each occurs in the other list, so they tie. -/
theorem head_eq_of_filter_tied {a b : α} {l₁ l₂ : List α}
    (h₁ : (a :: l₁).Pairwise fun a b => (cmp a b).isLE = true)
    (h₂ : (b :: l₂).Pairwise fun a b => (cmp a b).isLE = true)
    (h : ∀ x, (a :: l₁).filter (tied cmp x) = (b :: l₂).filter (tied cmp x)) : a = b := by
  have hself : ∀ x, tied cmp x x = true := fun x => tied_iff.2 Std.ReflCmp.compare_self
  have hle : ∀ {c d : α} {l : List α}, (c :: l).Pairwise (fun a b => (cmp a b).isLE = true) →
      d ∈ c :: l → (cmp c d).isLE = true := by
    intro c d l hsorted hd
    rcases List.mem_cons.1 hd with rfl | hd
    · exact Std.ReflCmp.isLE_rfl
    · exact List.rel_of_pairwise_cons hsorted hd
  have hab : a ∈ b :: l₂ := by
    have hmem : a ∈ (a :: l₁).filter (tied cmp a) := by simp [hself]
    rw [h a] at hmem
    exact List.mem_of_mem_filter hmem
  have hba : b ∈ a :: l₁ := by
    have hmem : b ∈ (b :: l₂).filter (tied cmp b) := by simp [hself]
    rw [← h b] at hmem
    exact List.mem_of_mem_filter hmem
  have htied : tied cmp a b = true :=
    tied_iff.2 (Std.OrientedCmp.isLE_antisymm (hle h₁ hba) (hle h₂ hab))
  have hfirst := h a
  rw [List.filter_cons_of_pos (hself a), List.filter_cons_of_pos htied] at hfirst
  exact (List.cons.inj hfirst).1

/-- **A sorted list is known by its classes of tied entries.** -/
theorem eq_of_filter_tied {l₁ l₂ : List α}
    (h₁ : l₁.Pairwise fun a b => (cmp a b).isLE = true)
    (h₂ : l₂.Pairwise fun a b => (cmp a b).isLE = true)
    (h : ∀ x, l₁.filter (tied cmp x) = l₂.filter (tied cmp x)) : l₁ = l₂ := by
  have hself : ∀ x, tied cmp x x = true := fun x => tied_iff.2 Std.ReflCmp.compare_self
  induction l₁ generalizing l₂ with
  | nil =>
    cases l₂ with
    | nil => rfl
    | cons b l₂ => simpa [hself b] using h b
  | cons a l₁ ih =>
    cases l₂ with
    | nil => simpa [hself a] using h a
    | cons b l₂ =>
      obtain rfl := head_eq_of_filter_tied cmp h₁ h₂ h
      refine congrArg (a :: ·) (ih h₁.of_cons h₂.of_cons fun x => ?_)
      have hx := h x
      by_cases hxa : tied cmp x a = true
      · rw [List.filter_cons_of_pos hxa, List.filter_cons_of_pos hxa] at hx
        exact (List.cons.inj hx).2
      · rwa [List.filter_cons_of_neg hxa, List.filter_cons_of_neg hxa] at hx

/-- **Two lists have the same sorted list exactly when they agree on every class
of tied entries.** -/
theorem sortBy_eq_sortBy_iff {l₁ l₂ : List α} :
    sortBy cmp l₁ = sortBy cmp l₂ ↔ ∀ x, l₁.filter (tied cmp x) = l₂.filter (tied cmp x) := by
  constructor
  · intro h x
    rw [← filter_tied_sortBy cmp x l₁, h, filter_tied_sortBy cmp x l₂]
  · intro h
    refine eq_of_filter_tied cmp (pairwise_sortBy cmp l₁) (pairwise_sortBy cmp l₂) fun x => ?_
    rw [filter_tied_sortBy, filter_tied_sortBy, h x]

/-- **Some first part of a list may be sorted beforehand.** -/
theorem sortBy_sortBy_append (l₁ l₂ : List α) :
    sortBy cmp (sortBy cmp l₁ ++ l₂) = sortBy cmp (l₁ ++ l₂) := by
  refine (sortBy_eq_sortBy_iff cmp).2 fun x => ?_
  rw [List.filter_append, filter_tied_sortBy, ← List.filter_append]

/-! ## Sorting a selection, sorting an image -/

/-- **A selection may be made before or after sorting.** -/
theorem sortBy_filter (p : α → Bool) (l : List α) :
    sortBy cmp (l.filter p) = (sortBy cmp l).filter p := by
  have hsorted := (pairwise_sortBy cmp l).filter p
  refine eq_of_filter_tied cmp (pairwise_sortBy cmp _) hsorted fun x => ?_
  rw [filter_tied_sortBy, List.filter_comm, List.filter_comm _ p, filter_tied_sortBy]

omit [Std.TransCmp cmp] in
/-- A change that the comparison does not see may be made before or after sorting. -/
theorem sortBy_map {g : α → α} (hg : ∀ a b, cmp (g a) (g b) = cmp a b) (l : List α) :
    sortBy cmp (l.map g) = (sortBy cmp l).map g :=
  (List.map_mergeSort fun a _ b _ => by rw [hg]).symm

/-! ## Lists without ties -/

/-- **Without ties the order of arrival does not matter.** -/
theorem sortBy_eq_of_perm {l₁ l₂ : List α} (hperm : l₁.Perm l₂)
    (h : l₁.Pairwise fun a b => cmp a b ≠ .eq) : sortBy cmp l₁ = sortBy cmp l₂ := by
  refine List.Perm.eq_of_pairwise ?_ (pairwise_sortBy cmp l₁) (pairwise_sortBy cmp l₂)
    ((perm_sortBy cmp l₁).trans (hperm.trans (perm_sortBy cmp l₂).symm))
  intro a b ha hb hab hba
  rw [mem_sortBy] at ha hb
  by_contra hne
  have hsymm : Std.Symm fun a b => cmp a b ≠ .eq :=
    ⟨fun _ _ hne heq => hne (Std.OrientedCmp.eq_symm heq)⟩
  exact h.forall ha (hperm.mem_iff.2 hb) hne (Std.OrientedCmp.isLE_antisymm hab hba)

/-- A list without repetitions that reads the same in both directions has at most
one entry. -/
theorem length_le_one_of_reverse_eq {l : List α} (hnodup : l.Nodup) (h : l.reverse = l) :
    l.length ≤ 1 := by
  rcases l with _ | ⟨a, _ | ⟨b, l⟩⟩
  · simp
  · simp
  · have hlast : (a :: b :: l).getLast (List.cons_ne_nil _ _) = a := by
      rw [← List.head_reverse (List.reverse_ne_nil_iff.2 (List.cons_ne_nil _ _))]
      simp only [h, List.head_cons]
    rw [List.getLast_cons (List.cons_ne_nil _ _)] at hlast
    have hmem : a ∈ b :: l := hlast ▸ List.getLast_mem _
    exact absurd hmem (List.nodup_cons.1 hnodup).1

/-- **With ties the order of arrival matters.**  If a list without repetitions can
be turned around without a trace, then no two of its entries tie. -/
theorem pairwise_of_sortBy_reverse {l : List α} (hnodup : l.Nodup)
    (h : sortBy cmp l.reverse = sortBy cmp l) : l.Pairwise fun a b => cmp a b ≠ .eq := by
  rw [List.pairwise_iff_forall_sublist]
  intro a b hsub heq
  have hclass := (sortBy_eq_sortBy_iff cmp).1 h a
  rw [List.filter_reverse] at hclass
  have hone := length_le_one_of_reverse_eq (hnodup.filter _) hclass
  have htwo := (hsub.filter (tied cmp a)).length_le
  have ha : tied cmp a a = true := tied_iff.2 Std.ReflCmp.compare_self
  have hb : tied cmp a b = true := tied_iff.2 heq
  rw [List.filter_cons_of_pos ha, List.filter_cons_of_pos hb] at htwo
  simp only [List.length_cons] at htwo
  omega

end ForbiddenCalls
