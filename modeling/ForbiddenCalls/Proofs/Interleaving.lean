import Mathlib.Data.List.Basic
import Mathlib.Data.List.Perm.Basic

/-!
# Interleavings

Workers that share a log write into it in turns.  What the log receives is an
interleaving of what each of them writes: everything, once, and in the order of
its writer.

* `Woven xs ys zs`: `zs` is woven from `xs` and `ys`.
* `Interleaving qs xs`: `xs` is woven from all the queues `qs`.
* `Interleaving.extend`, `Interleaving.uncons`: one more entry at the end, and the
  first entry taken away; these are the two ways to walk along a run.
* `Interleaving.map_filterMap_iff`, `Interleaving.eq_flatten`: what selections of the
  queues interleave to are the selections of their interleavings, and where at most
  one queue has entries there is only one interleaving.
-/

namespace ForbiddenCalls

variable {α β : Type*}

/-- Two lists woven into one, in which each keeps its order.  Once the first is
used up, the rest of the second follows. -/
inductive Woven : List α → List α → List α → Prop
  | rest (ys : List α) : Woven [] ys ys
  | first {x : α} {xs ys zs : List α} : Woven xs ys zs → Woven (x :: xs) ys (x :: zs)
  | second {y : α} {xs ys zs : List α} : Woven xs ys zs → Woven xs (y :: ys) (y :: zs)

/-- Several queues woven into one list. -/
inductive Interleaving : List (List α) → List α → Prop
  | nil : Interleaving [] []
  | cons {q ys xs : List α} {qs : List (List α)} :
      Woven q ys xs → Interleaving qs ys → Interleaving (q :: qs) xs

namespace Woven

variable {xs ys zs : List α}

theorem perm (h : Woven xs ys zs) : zs.Perm (xs ++ ys) := by
  induction h with
  | rest ys => exact List.Perm.refl ys
  | first _ ih => exact ih.cons _
  | second _ ih => exact (ih.cons _).trans List.perm_middle.symm

theorem eq_of_nil_left (h : Woven [] ys zs) : zs = ys := by
  generalize hxs : ([] : List α) = xs at h
  induction h with
  | rest _ => rfl
  | first _ _ => exact absurd hxs (List.cons_ne_nil _ _).symm
  | second _ ih => rw [ih hxs]

theorem eq_of_nil_right (h : Woven xs [] zs) : zs = xs := by
  generalize hys : ([] : List α) = ys at h
  induction h with
  | rest _ => exact hys.symm
  | first _ ih => rw [ih hys]
  | second _ _ => exact absurd hys (List.cons_ne_nil _ _).symm

/-- One list after the other is one way to weave them. -/
theorem append (xs ys : List α) : Woven xs ys (xs ++ ys) := by
  induction xs with
  | nil => exact Woven.rest ys
  | cons x xs ih => exact ih.first

/-- Selecting and changing entries of what is woven weaves the selections. -/
theorem filterMap (f : α → Option β) (h : Woven xs ys zs) :
    Woven (xs.filterMap f) (ys.filterMap f) (zs.filterMap f) := by
  induction h with
  | rest ys => exact Woven.rest (ys.filterMap f)
  | @first x xs ys zs _ ih =>
    cases hx : f x with
    | none => rwa [List.filterMap_cons_none hx, List.filterMap_cons_none hx]
    | some b =>
      rw [List.filterMap_cons_some hx, List.filterMap_cons_some hx]
      exact ih.first
  | @second y xs ys zs _ ih =>
    cases hy : f y with
    | none => rwa [List.filterMap_cons_none hy, List.filterMap_cons_none hy]
    | some b =>
      rw [List.filterMap_cons_some hy, List.filterMap_cons_some hy]
      exact ih.second

/-- Whatever is woven from selections is the selection of something woven. -/
theorem exists_of_filterMap {f : α → Option β} {zs : List β}
    (h : Woven (xs.filterMap f) (ys.filterMap f) zs) :
    ∃ ws, Woven xs ys ws ∧ ws.filterMap f = zs := by
  induction xs generalizing ys zs with
  | nil => exact ⟨ys, Woven.rest ys, h.eq_of_nil_left.symm⟩
  | cons x xs ih =>
    cases hx : f x with
    | none =>
      rw [List.filterMap_cons_none hx] at h
      obtain ⟨ws, hws, rfl⟩ := ih h
      exact ⟨x :: ws, hws.first, List.filterMap_cons_none hx⟩
    | some b =>
      rw [List.filterMap_cons_some hx] at h
      -- entries of the second list may come before that of `x`
      induction ys generalizing zs with
      | nil =>
        refine ⟨(x :: xs) ++ [], Woven.append (x :: xs) [], ?_⟩
        rw [List.append_nil, List.filterMap_cons_some hx, h.eq_of_nil_right]
      | cons y ys ihy =>
        cases hy : f y with
        | none =>
          rw [List.filterMap_cons_none hy] at h
          obtain ⟨ws, hws, rfl⟩ := ihy h
          exact ⟨y :: ws, hws.second, List.filterMap_cons_none hy⟩
        | some c =>
          rw [List.filterMap_cons_some hy] at h
          cases h with
          | first h =>
            rw [← List.filterMap_cons_some hy] at h
            obtain ⟨ws, hws, rfl⟩ := ih h
            exact ⟨x :: ws, hws.first, List.filterMap_cons_some hx⟩
          | second h =>
            obtain ⟨ws, hws, rfl⟩ := ihy h
            exact ⟨y :: ws, hws.second, List.filterMap_cons_some hy⟩

theorem extend_first (h : Woven xs ys zs) (ws : List α) : Woven (xs ++ ws) ys (zs ++ ws) := by
  induction h with
  | rest ys =>
    induction ys with
    | nil => simpa using append ws []
    | cons y ys ih => exact ih.second
  | first _ ih => exact ih.first
  | second _ ih => exact ih.second

theorem extend_second (h : Woven xs ys zs) (ws : List α) : Woven xs (ys ++ ws) (zs ++ ws) := by
  induction h with
  | rest ys => exact Woven.rest (ys ++ ws)
  | first _ ih => exact ih.first
  | second _ ih => exact ih.second

end Woven

namespace Interleaving

variable {qs : List (List α)} {xs : List α}

theorem perm_flatten (h : Interleaving qs xs) : xs.Perm qs.flatten := by
  induction h with
  | nil => exact List.Perm.nil
  | cons hwoven _ ih => exact hwoven.perm.trans (ih.append_left _)

/-- One queue after the other is an interleaving. -/
theorem flatten (qs : List (List α)) : Interleaving qs qs.flatten := by
  induction qs with
  | nil => exact Interleaving.nil
  | cons q qs ih => exact ih.cons (Woven.append q qs.flatten)

/-- **Selections of the queues interleave** to the selections of what the queues
interleave to. -/
theorem map_filterMap_iff {f : α → Option β} {zs : List β} :
    Interleaving (qs.map (List.filterMap f)) zs ↔
      ∃ ws, Interleaving qs ws ∧ ws.filterMap f = zs := by
  constructor
  · intro h
    induction qs generalizing zs with
    | nil =>
      cases h with
      | nil => exact ⟨[], Interleaving.nil, rfl⟩
    | cons q qs ih =>
      cases h with
      | cons hwoven hrest =>
        obtain ⟨ys, hys, rfl⟩ := ih hrest
        obtain ⟨ws, hws, rfl⟩ := hwoven.exists_of_filterMap
        exact ⟨ws, hys.cons hws, rfl⟩
  · rintro ⟨ws, h, rfl⟩
    induction h with
    | nil => exact Interleaving.nil
    | cons hwoven _ ih => exact ih.cons (hwoven.filterMap f)

theorem filter (p : α → Bool) (h : Interleaving qs xs) :
    Interleaving (qs.map (List.filter p)) (xs.filter p) := by
  rw [← List.filterMap_eq_filter]
  exact map_filterMap_iff.2 ⟨xs, h, rfl⟩

/-- A queue is written further by writing at the end of the interleaving. -/
theorem extend {before after : List (List α)} {q : List α}
    (h : Interleaving (before ++ q :: after) xs) (ws : List α) :
    Interleaving (before ++ (q ++ ws) :: after) (xs ++ ws) := by
  induction before generalizing xs with
  | nil =>
    cases h with
    | cons hwoven hrest => exact hrest.cons (hwoven.extend_first ws)
  | cons b before ih =>
    cases h with
    | cons hwoven hrest => exact (ih hrest).cons (hwoven.extend_second ws)

/-- Only queues without entries interleave to nothing. -/
theorem nil_iff : Interleaving qs [] ↔ ∀ q ∈ qs, q = [] := by
  constructor
  · intro h
    exact List.flatten_eq_nil_iff.1 h.perm_flatten.nil_eq.symm
  · intro h
    have hflat : qs.flatten = [] := List.flatten_eq_nil_iff.2 h
    exact hflat ▸ flatten qs

/-- The first entry of an interleaving is the first entry of one of the queues. -/
theorem uncons {x : α} (h : Interleaving qs (x :: xs)) :
    ∃ before q after, qs = before ++ (x :: q) :: after ∧
      Interleaving (before ++ q :: after) xs := by
  generalize hzs : x :: xs = zs at h
  induction h generalizing xs with
  | nil => exact absurd hzs (List.cons_ne_nil x xs)
  | @cons q ys zs qs hwoven hrest ih =>
    cases hwoven with
    | rest _ =>
      obtain ⟨before, q', after, rfl, hrest'⟩ := ih hzs
      exact ⟨[] :: before, q', after, rfl, hrest'.cons (Woven.rest xs)⟩
    | @first x' q _ _ hwoven =>
      obtain ⟨rfl, rfl⟩ := List.cons.inj hzs
      exact ⟨[], q, qs, rfl, hrest.cons hwoven⟩
    | @second y _ ys _ hwoven =>
      obtain ⟨rfl, rfl⟩ := List.cons.inj hzs
      obtain ⟨before, q', after, rfl, hrest'⟩ := ih rfl
      exact ⟨q :: before, q', after, rfl, hrest'.cons hwoven⟩

/-- Where at most one queue has entries, there is only one interleaving. -/
theorem eq_flatten (h : Interleaving qs xs)
    (hone : qs.Pairwise fun q r => q = [] ∨ r = []) : xs = qs.flatten := by
  induction h with
  | nil => rfl
  | @cons q ys xs qs hwoven hrest ih =>
    obtain ⟨hq, hqs⟩ := List.pairwise_cons.1 hone
    have hys := ih hqs
    by_cases hempty : q = []
    · subst hempty
      rw [hwoven.eq_of_nil_left, hys, List.flatten_cons, List.nil_append]
    · have hnone : qs.flatten = [] :=
        List.flatten_eq_nil_iff.2 fun r hr => (hq r hr).resolve_left hempty
      rw [hnone] at hys
      subst hys
      rw [hwoven.eq_of_nil_right, List.flatten_cons, hnone, List.append_nil]

/-- Where at most one queue has entries, the order of the queues does not matter. -/
theorem flatten_eq_of_perm {rs : List (List α)} (hperm : qs.Perm rs)
    (hone : qs.Pairwise fun q r => q = [] ∨ r = []) : qs.flatten = rs.flatten := by
  induction hperm with
  | nil => rfl
  | cons q _ ih => rw [List.flatten_cons, List.flatten_cons, ih hone.of_cons]
  | swap q r qs =>
    rcases List.rel_of_pairwise_cons hone List.mem_cons_self with rfl | rfl
    · rfl
    · rfl
  | trans hqs _ ih₁ ih₂ => exact (ih₁ hone).trans (ih₂ (hone.perm hqs Or.symm))

/-- Queues without entries may be left out. -/
theorem map_filter_iff {f : β → List α} {p : β → Bool} {us : List β}
    (hp : ∀ u ∈ us, p u = false → f u = []) :
    Interleaving ((us.filter p).map f) xs ↔ Interleaving (us.map f) xs := by
  induction us generalizing xs with
  | nil => rfl
  | cons u us ih =>
    obtain ⟨hu, hus⟩ := List.forall_mem_cons.1 hp
    by_cases h : p u = true
    · rw [List.filter_cons_of_pos h, List.map_cons, List.map_cons]
      constructor
      · rintro (_ | ⟨hwoven, hrest⟩)
        exact ((ih hus).1 hrest).cons hwoven
      · rintro (_ | ⟨hwoven, hrest⟩)
        exact ((ih hus).2 hrest).cons hwoven
    · rw [List.filter_cons_of_neg h, List.map_cons, hu (by simpa using h), ih hus]
      constructor
      · intro hrest
        exact hrest.cons (Woven.rest xs)
      · rintro (_ | ⟨hwoven, hrest⟩)
        rwa [hwoven.eq_of_nil_left]

end Interleaving

end ForbiddenCalls
