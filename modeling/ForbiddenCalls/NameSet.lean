import ForbiddenCalls.Text.DottedName

/-!
# Finite sets of names

The methods and the owner types of a rule are sets of texts.  A set is kept as
its strictly increasing list, so that two sets with the same members are the
same value, however they were put together, and listing a set is always sorted.
-/

namespace ForbiddenCalls

/-- A set of texts, as the strictly increasing list of its members. -/
structure NameSet where
  toList : List String
  increasing : toList.Pairwise (· < ·)
  deriving DecidableEq, Repr

namespace NameSet

/-- Puts a text into its place in a strictly increasing list. -/
def insertInto (x : String) : List String → List String
  | [] => [x]
  | y :: ys =>
    if x < y then x :: y :: ys
    else if x = y then y :: ys
    else y :: insertInto x ys

theorem mem_insertInto {x z : String} {ys : List String} :
    z ∈ insertInto x ys ↔ z = x ∨ z ∈ ys := by
  induction ys with
  | nil => simp [insertInto]
  | cons y ys ih =>
    simp only [insertInto]
    split
    · simp
    · split
      · next h => subst h; simp
      · simp only [List.mem_cons, ih]
        constructor
        · rintro (h | h | h) <;> simp [h]
        · rintro (h | h | h) <;> simp [h]

theorem pairwise_insertInto {x : String} {ys : List String} (h : ys.Pairwise (· < ·)) :
    (insertInto x ys).Pairwise (· < ·) := by
  induction ys with
  | nil => simp [insertInto]
  | cons y ys ih =>
    obtain ⟨hy, hys⟩ := List.pairwise_cons.1 h
    simp only [insertInto]
    split
    · next hx =>
      refine List.pairwise_cons.2 ⟨fun z hz => ?_, h⟩
      rcases List.mem_cons.1 hz with rfl | hz
      · exact hx
      · exact String.lt_trans hx (hy z hz)
    · next hx =>
      split
      · exact h
      · next hne =>
        refine List.pairwise_cons.2 ⟨fun z hz => ?_, ih hys⟩
        rcases mem_insertInto.1 hz with rfl | hz
        · exact Decidable.byContradiction fun hlt =>
            hne (String.le_antisymm (String.not_lt.1 hlt) (String.not_lt.1 hx))
        · exact hy z hz

/-- The set without members. -/
def empty : NameSet := ⟨[], List.Pairwise.nil⟩

instance : Inhabited NameSet := ⟨empty⟩

/-- Adds a member. -/
def insert (s : NameSet) (x : String) : NameSet :=
  ⟨insertInto x s.toList, pairwise_insertInto s.increasing⟩

/-- The set of the texts in a list. -/
def ofList (xs : List String) : NameSet :=
  xs.foldl insert empty

instance : Membership String NameSet := ⟨fun s x => x ∈ s.toList⟩

instance (x : String) (s : NameSet) : Decidable (x ∈ s) :=
  inferInstanceAs (Decidable (x ∈ s.toList))

/-- Whether a text is a member. -/
def contains (s : NameSet) (x : String) : Bool := decide (x ∈ s)

theorem nodup_toList (s : NameSet) : s.toList.Nodup :=
  s.increasing.imp fun hlt => String.ne_of_lt hlt

theorem mem_toList {x : String} {s : NameSet} : x ∈ s.toList ↔ x ∈ s := Iff.rfl

@[simp] theorem contains_iff {s : NameSet} {x : String} : s.contains x = true ↔ x ∈ s := by
  simp [contains]

@[simp] theorem not_mem_empty (x : String) : ¬ x ∈ empty := by
  simp [← mem_toList, empty]

@[simp] theorem mem_insert {s : NameSet} {x y : String} : y ∈ s.insert x ↔ y = x ∨ y ∈ s :=
  mem_insertInto

/-- Sets with the same members are equal: there is one increasing list of them. -/
@[ext] theorem ext {s t : NameSet} (h : ∀ x, x ∈ s ↔ x ∈ t) : s = t := by
  obtain ⟨xs, hxs⟩ := s
  obtain ⟨ys, hys⟩ := t
  have hperm : xs.Perm ys :=
    (List.perm_ext_iff_of_nodup (nodup_toList ⟨xs, hxs⟩) (nodup_toList ⟨ys, hys⟩)).2 h
  have hlists : xs = ys :=
    hperm.eq_of_pairwise (fun _ _ _ _ hab hba => absurd hba (String.lt_asymm hab)) hxs hys
  subst hlists
  rfl

theorem mem_foldl_insert {xs : List String} {s : NameSet} {y : String} :
    y ∈ xs.foldl insert s ↔ y ∈ s ∨ y ∈ xs := by
  induction xs generalizing s with
  | nil => simp
  | cons x xs ih =>
    simp only [List.foldl_cons, ih, mem_insert, List.mem_cons]
    constructor
    · rintro ((h | h) | h) <;> simp [h]
    · rintro (h | h | h) <;> simp [h]

@[simp] theorem mem_ofList {xs : List String} {y : String} : y ∈ ofList xs ↔ y ∈ xs := by
  simp [ofList, mem_foldl_insert]

/-- A set is the singleton of a text exactly when that text is its list. -/
def single? (s : NameSet) : Option String :=
  match s.toList with
  | [x] => some x
  | _ => none

theorem single?_eq_some_iff {s : NameSet} {x : String} : s.single? = some x ↔ s.toList = [x] := by
  rw [single?]
  split
  · next h => simp [h]
  · next h => exact iff_of_false nofun fun hs => h x hs

/-- A set has one member when it has a member and no other. -/
theorem toList_eq_singleton {s : NameSet} {x : String} (hx : x ∈ s) (h : ∀ y ∈ s, y = x) :
    s.toList = [x] := by
  have hsame : s = empty.insert x := by
    ext y
    rw [mem_insert, or_iff_left (not_mem_empty y)]
    exact ⟨h y, fun hy => hy ▸ hx⟩
  rw [hsame]
  rfl

end NameSet

end ForbiddenCalls
