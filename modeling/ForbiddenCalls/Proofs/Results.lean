import Mathlib.Data.List.Basic

/-!
# Lists of results

A function that may fail is applied to the entries of a list, one after the other, until the
first error.  There are results for the list exactly when there is one for each entry, and the
error is that of the first entry that has one, whatever comes behind it.
-/

namespace ForbiddenCalls

variable {ε α β : Type} {f : α → Except ε β} {as : List α} {bs : List β} {e : ε}

theorem mapM_cons_eq_ok_iff {a : α} :
    (a :: as).mapM f = .ok bs ↔ ∃ b bs', f a = .ok b ∧ as.mapM f = .ok bs' ∧ b :: bs' = bs := by
  rw [List.mapM_cons]
  cases f a with
  | error e => simp [bind, Except.bind]
  | ok b => cases as.mapM f <;> simp [bind, Except.bind, pure, Except.pure]

theorem mapM_cons_eq_error_iff {a : α} :
    (a :: as).mapM f = .error e ↔
      f a = .error e ∨ (∃ b, f a = .ok b) ∧ as.mapM f = .error e := by
  rw [List.mapM_cons]
  cases f a with
  | error e => simp [bind, Except.bind]
  | ok b => cases as.mapM f <;> simp [bind, Except.bind, pure, Except.pure]

theorem mapM_cons_of_ok {a : α} {b : β} (h : f a = .ok b) :
    (a :: as).mapM f = (as.mapM f).map (b :: ·) := by
  rw [List.mapM_cons, h]
  cases as.mapM f <;> rfl

/-- Nothing behind an error is looked at. -/
theorem mapM_cons_of_error {a : α} (h : f a = .error e) : (a :: as).mapM f = .error e := by
  rw [List.mapM_cons, h]
  rfl

/-- The results for a list are the results for its entries. -/
theorem mem_iff_of_mapM_eq_ok (h : as.mapM f = .ok bs) {b : β} :
    b ∈ bs ↔ ∃ a ∈ as, f a = .ok b := by
  induction as generalizing bs with
  | nil =>
    obtain rfl := Except.ok.inj h
    simp
  | cons a as ih =>
    obtain ⟨c, bs', hc, hbs', rfl⟩ := mapM_cons_eq_ok_iff.1 h
    rw [List.mem_cons, ih hbs', List.exists_mem_cons_iff, hc, Except.ok.injEq, eq_comm]

/-- There is a result for a list if there is one for every entry. -/
theorem exists_mapM_eq_ok_iff :
    (∃ bs, as.mapM f = .ok bs) ↔ ∀ a ∈ as, ∃ b, f a = .ok b := by
  induction as with
  | nil => exact iff_of_true ⟨[], rfl⟩ nofun
  | cons a as ih =>
    rw [List.forall_mem_cons, ← ih]
    constructor
    · rintro ⟨bs, h⟩
      obtain ⟨b, bs', hb, hbs', -⟩ := mapM_cons_eq_ok_iff.1 h
      exact ⟨⟨b, hb⟩, bs', hbs'⟩
    · rintro ⟨⟨b, hb⟩, bs', hbs'⟩
      exact ⟨b :: bs', mapM_cons_eq_ok_iff.2 ⟨b, bs', hb, hbs', rfl⟩⟩

/-- The error for a list is that of the first entry with an error. -/
theorem mapM_eq_error_iff : as.mapM f = .error e ↔
    ∃ before a after, as = before ++ a :: after ∧ f a = .error e ∧
      ∀ a' ∈ before, ∃ b, f a' = .ok b := by
  induction as with
  | nil =>
    refine iff_of_false nofun ?_
    rintro ⟨before, a, after, h, -⟩
    exact List.append_ne_nil_of_right_ne_nil before (List.cons_ne_nil a after) h.symm
  | cons a as ih =>
    rw [mapM_cons_eq_error_iff, ih]
    constructor
    · rintro (ha | ⟨ha, before, c, after, rfl, hc, hbefore⟩)
      · exact ⟨[], a, as, rfl, ha, nofun⟩
      · exact ⟨a :: before, c, after, rfl, hc, List.forall_mem_cons.2 ⟨ha, hbefore⟩⟩
    · rintro ⟨_ | ⟨a', before⟩, c, after, heq, hc, hbefore⟩
      · obtain ⟨rfl, -⟩ := List.cons.inj heq
        exact .inl hc
      · obtain ⟨rfl, rfl⟩ := List.cons.inj heq
        obtain ⟨ha, hbefore⟩ := List.forall_mem_cons.1 hbefore
        exact .inr ⟨ha, before, c, after, rfl, hc, hbefore⟩

end ForbiddenCalls
