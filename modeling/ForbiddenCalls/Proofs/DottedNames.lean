import ForbiddenCalls.Text.DottedName
import Mathlib.Tactic.Common

/-!
# Dotted names by equations

A dotted name is taken apart at its dots: into all its segments, at the first dot, at
the last one, or for its last segment alone.  Here each of these is known by an equation
between texts that does not mention the dots of the other parts.

* `segments_append`: the segments of two names joined by a dot.
* `splitHead_eq_some_iff`, `splitLast_eq_some_iff`: the parts in front of the first dot and
  behind the last one have no dot.
* `lastSegment_eq_iff`, `all_isIdentifier_segments_iff`: the last segment, and names all of
  whose segments are identifiers.
-/

namespace ForbiddenCalls.Text

/-! ## Cutting lists of characters -/

section Cut

variable {sep : Char} {cs a b : List Char}

/-- The pieces of two texts joined by the separator. -/
theorem cutAll_append (a b : List Char) :
    cutAll sep (a ++ sep :: b) = cutAll sep a ++ cutAll sep b := by
  induction a with
  | nil => simp [cutAll]
  | cons c a ih =>
    rw [List.cons_append, cutAll, cutAll, ih]
    split
    · rfl
    · cases h : cutAll sep a with
      | nil => exact absurd h (cutAll_ne_nil sep a)
      | cons w ws => rfl

theorem cutAll_of_notMem (h : sep ∉ cs) : cutAll sep cs = [cs] := by
  induction cs with
  | nil => rfl
  | cons c cs ih =>
    rw [List.mem_cons, not_or] at h
    obtain ⟨hc, hcs⟩ := h
    rw [cutAll, if_neg (Ne.symm hc), ih hcs]

/-- The first separator is the one with none in front. -/
theorem cutFirst_append (h : sep ∉ a) (b : List Char) :
    cutFirst sep (a ++ sep :: b) = some (a, b) := by
  induction a with
  | nil => simp [cutFirst]
  | cons c a ih =>
    rw [List.mem_cons, not_or] at h
    obtain ⟨hc, ha⟩ := h
    rw [List.cons_append, cutFirst, if_neg (Ne.symm hc), ih ha]
    rfl

theorem cutFirst_of_notMem (h : sep ∉ cs) : cutFirst sep cs = none := by
  induction cs with
  | nil => rfl
  | cons c cs ih =>
    rw [List.mem_cons, not_or] at h
    obtain ⟨hc, hcs⟩ := h
    rw [cutFirst, if_neg (Ne.symm hc), ih hcs]
    rfl

/-- A text without a separator, or a cut of it at the first one. -/
theorem notMem_or_exists_cut (sep : Char) (cs : List Char) :
    sep ∉ cs ∨ ∃ a b, cs = a ++ sep :: b ∧ sep ∉ a := by
  induction cs with
  | nil => exact .inl List.not_mem_nil
  | cons c cs ih =>
    by_cases hc : c = sep
    · exact .inr ⟨[], cs, by rw [hc, List.nil_append], List.not_mem_nil⟩
    · rcases ih with hcs | ⟨a, b, rfl, ha⟩
      · exact .inl (by rw [List.mem_cons, not_or]; exact ⟨Ne.symm hc, hcs⟩)
      · exact .inr ⟨c :: a, b, rfl, by rw [List.mem_cons, not_or]; exact ⟨Ne.symm hc, ha⟩⟩

theorem cutFirst_eq_some_iff :
    cutFirst sep cs = some (a, b) ↔ cs = a ++ sep :: b ∧ sep ∉ a := by
  constructor
  · intro h
    rcases notMem_or_exists_cut sep cs with hcs | ⟨a', b', rfl, ha'⟩
    · rw [cutFirst_of_notMem hcs] at h
      exact nomatch h
    · rw [cutFirst_append ha', Option.some_inj, Prod.mk.injEq] at h
      rw [← h.1, ← h.2]
      exact ⟨rfl, ha'⟩
  · rintro ⟨rfl, ha⟩
    exact cutFirst_append ha b

theorem cutLast_eq_some_iff :
    cutLast sep cs = some (a, b) ↔ cs = a ++ sep :: b ∧ sep ∉ b := by
  have hreverse : cutLast sep cs = some (a, b) ↔
      cutFirst sep cs.reverse = some (b.reverse, a.reverse) := by
    rw [cutLast, Option.map_eq_some_iff]
    constructor
    · rintro ⟨p, hp, hab⟩
      rw [Prod.mk.injEq] at hab
      rw [hp, ← hab.1, ← hab.2, List.reverse_reverse, List.reverse_reverse]
    · intro h
      exact ⟨_, h, by rw [List.reverse_reverse, List.reverse_reverse]⟩
  rw [hreverse, cutFirst_eq_some_iff, List.mem_reverse, List.reverse_eq_iff]
  simp

end Cut

/-! ## Names -/

variable {name head rest front last owner : String}

/-- Two names joined by a dot, as characters. -/
theorem toList_join (a b : String) : (a ++ "." ++ b).toList = a.toList ++ '.' :: b.toList := by
  simp

/-- The segments of two names joined by a dot. -/
theorem segments_append (a b : String) : segments (a ++ "." ++ b) = segments a ++ segments b := by
  rw [segments, toList_join, cutAll_append, List.map_append]
  rfl

theorem segments_of_notMem (h : '.' ∉ name.toList) : segments name = [name] := by
  rw [segments, cutAll_of_notMem h, List.map_singleton, String.ofList_toList]

theorem splitHead_eq_some_iff :
    splitHead name = some (head, rest) ↔ name = head ++ "." ++ rest ∧ '.' ∉ head.toList := by
  rw [splitHead, Option.map_eq_some_iff, ← String.toList_inj, toList_join, ← cutFirst_eq_some_iff]
  constructor
  · rintro ⟨p, hp, hparts⟩
    rw [Prod.mk.injEq] at hparts
    rw [hp, ← hparts.1, ← hparts.2, String.toList_ofList, String.toList_ofList]
  · intro h
    exact ⟨_, h, by rw [String.ofList_toList, String.ofList_toList]⟩

theorem splitLast_eq_some_iff :
    splitLast name = some (owner, last) ↔ name = owner ++ "." ++ last ∧ '.' ∉ last.toList := by
  rw [splitLast, Option.map_eq_some_iff, ← String.toList_inj, toList_join, ← cutLast_eq_some_iff]
  constructor
  · rintro ⟨p, hp, hparts⟩
    rw [Prod.mk.injEq] at hparts
    rw [hp, ← hparts.1, ← hparts.2, String.toList_ofList, String.toList_ofList]
  · intro h
    exact ⟨_, h, by rw [String.ofList_toList, String.ofList_toList]⟩

/-- A name without a dot, or a cut of it at the first dot. -/
theorem notMem_or_exists_splitHead (name : String) :
    '.' ∉ name.toList ∨ ∃ head rest, name = head ++ "." ++ rest ∧ '.' ∉ head.toList := by
  rcases notMem_or_exists_cut '.' name.toList with h | ⟨a, b, h, ha⟩
  · exact .inl h
  · refine .inr ⟨String.ofList a, String.ofList b, ?_, by rwa [String.toList_ofList]⟩
    rw [← String.toList_inj, toList_join, String.toList_ofList, String.toList_ofList, h]

theorem splitHead_of_notMem (h : '.' ∉ name.toList) : splitHead name = none := by
  rw [splitHead, cutFirst_of_notMem h, Option.map_none]

/-- The first segment is what stands in front of the first dot. -/
theorem headD_segments (h : '.' ∉ head.toList) (rest default : String) :
    (segments (head ++ "." ++ rest)).headD default = head := by
  rw [segments_append, segments_of_notMem h]
  rfl

/-! ## The last segment -/

/-- A text is the last segment of a name: it has no dot, and it is the name or what stands
in it behind a dot. -/
def IsLastSegment (last name : String) : Prop :=
  '.' ∉ last.toList ∧ (name = last ∨ ∃ front, name = front ++ "." ++ last)

theorem lastSegment_of_isLastSegment (h : IsLastSegment last name) : lastSegment name = last := by
  obtain ⟨hlast, rfl | ⟨front, rfl⟩⟩ := h
  · rw [lastSegment, segments_of_notMem hlast]
    rfl
  · rw [lastSegment, segments_append, segments_of_notMem hlast]
    simp

theorem exists_isLastSegment (name : String) : ∃ last, IsLastSegment last name := by
  rcases notMem_or_exists_cut '.' name.toList.reverse with h | ⟨a, b, h, ha⟩
  · exact ⟨name, by rwa [List.mem_reverse] at h, .inl rfl⟩
  · refine ⟨String.ofList a.reverse, ?_, .inr ⟨String.ofList b.reverse, ?_⟩⟩
    · rwa [String.toList_ofList, List.mem_reverse]
    · rw [← String.toList_inj, toList_join, String.toList_ofList, String.toList_ofList,
        ← List.reverse_reverse name.toList, h]
      simp

/-- The last segment of a name. -/
theorem lastSegment_eq_iff : lastSegment name = last ↔ IsLastSegment last name := by
  refine ⟨?_, lastSegment_of_isLastSegment⟩
  rintro rfl
  obtain ⟨last, hlast⟩ := exists_isLastSegment name
  rwa [lastSegment_of_isLastSegment hlast]

/-! ## Names made of identifiers -/

/-- A name made of identifiers joined by dots. -/
inductive IsDottedName : String → Prop where
  | single {name : String} : isIdentifier name = true → IsDottedName name
  | cons {head rest : String} : isIdentifier head = true → IsDottedName rest →
      IsDottedName (head ++ "." ++ rest)

/-- All characters of an identifier may follow in one. -/
theorem isIdentifierPart_of_mem {c : Char} (h : isIdentifier name = true) (hc : c ∈ name.toList) :
    isIdentifierPart c = true := by
  unfold isIdentifier at h
  split at h
  · exact absurd h Bool.false_ne_true
  · next first cs hcs =>
    obtain ⟨hfirst, hall⟩ := Bool.and_eq_true_iff.1 h
    rw [hcs] at hc
    rcases List.mem_cons.1 hc with rfl | hc
    · simp only [isIdentifierStart, Bool.or_eq_true] at hfirst
      simp only [isIdentifierPart, Bool.or_eq_true]
      tauto
    · exact List.all_eq_true.1 hall c hc

/-- An identifier has no dot. -/
theorem dot_notMem_of_isIdentifier (h : isIdentifier name = true) : '.' ∉ name.toList := by
  intro hmem
  have hdot : isIdentifierPart '.' = false := by decide
  exact absurd (hdot.symm.trans (isIdentifierPart_of_mem h hmem)) Bool.false_ne_true

theorem isIdentifier_join (a b : String) : isIdentifier (a ++ "." ++ b) = false :=
  Bool.eq_false_iff.2 fun h => dot_notMem_of_isIdentifier h (by simp)

theorem segments_of_isIdentifier (h : isIdentifier name = true) : segments name = [name] :=
  segments_of_notMem (dot_notMem_of_isIdentifier h)

theorem IsDottedName.all_segments (h : IsDottedName name) :
    (segments name).all isIdentifier = true := by
  induction h with
  | single h => rw [segments_of_isIdentifier h, List.all_cons, h, List.all_nil, Bool.and_self]
  | cons h _ ih => rw [segments_append, segments_of_isIdentifier h, List.singleton_append,
      List.all_cons, h, ih, Bool.and_self]

/-- The names all of whose segments are identifiers. -/
theorem all_isIdentifier_segments_iff :
    (segments name).all isIdentifier = true ↔ IsDottedName name := by
  refine ⟨fun h => ?_, IsDottedName.all_segments⟩
  -- the segments of the rest are one fewer
  generalize hlength : (segments name).length = n
  induction n generalizing name with
  | zero =>
    rcases notMem_or_exists_splitHead name with hdot | ⟨head, rest, rfl, hdot⟩
    · rw [segments_of_notMem hdot] at hlength
      exact nomatch hlength
    · rw [segments_append, segments_of_notMem hdot] at hlength
      exact nomatch hlength
  | succ n ih =>
    rcases notMem_or_exists_splitHead name with hdot | ⟨head, rest, rfl, hdot⟩
    · rw [segments_of_notMem hdot, List.all_cons, List.all_nil, Bool.and_true] at h
      exact .single h
    · rw [segments_append, segments_of_notMem hdot, List.singleton_append] at h hlength
      obtain ⟨hhead, hrest⟩ := Bool.and_eq_true_iff.1 (List.all_cons ▸ h)
      exact .cons hhead (ih hrest (Nat.succ.inj hlength))

end ForbiddenCalls.Text
