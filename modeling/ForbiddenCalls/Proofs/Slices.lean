import ForbiddenCalls.Syntax.Source
import ForbiddenCalls.Text.ByteSize
import Mathlib.Data.String.Basic

/-!
# Slices of a source

Offsets count bytes and texts are lists of characters, so an offset divides a text only if
it lies on a *boundary*: at the start of a character or at the end of the text.  Between
two boundaries a slice is what the text has there (`Source.slice_eq`), and slices that
follow one another are one slice (`Source.slice_append_slice`).
-/

namespace ForbiddenCalls

namespace Text

theorem utf8Len_eq_byteSize (cs : List Char) : String.utf8Len cs = byteSize cs := by
  induction cs with
  | nil => rfl
  | cons c cs ih => rw [String.utf8Len_cons, byteSize_cons, ih, Nat.add_comm]

/-- Of two beginnings of a text, the one with fewer bytes is a beginning of the other. -/
theorem exists_eq_append_of_byteSize_le {a b c d : List Char} (h : a ++ b = c ++ d)
    (hle : byteSize a ≤ byteSize c) : ∃ m, c = a ++ m := by
  obtain ⟨m, hc, -⟩ | ⟨m, ha, -⟩ := List.append_eq_append_iff.1 h
  · exact ⟨m, hc⟩
  · -- What the second beginning lacks has no bytes.
    have hm : m = [] := by
      rw [ha, byteSize_append] at hle
      exact byteSize_eq_zero_iff.1 (by omega)
    subst hm
    rw [List.append_nil] at ha
    exact ⟨[], by rw [ha, List.append_nil]⟩

end Text

namespace Source

variable {s : Source} {a b c : Nat}

/-- An offset between two characters, or at one of the ends of the text. -/
def IsBoundary (s : Source) (a : Nat) : Prop :=
  ∃ before after, s.text.toList = before ++ after ∧ Text.byteSize before = a

/-- A slice is what stands between two beginnings of the text. -/
theorem slice_eq {before between after : List Char}
    (h : s.text.toList = before ++ between ++ after) :
    s.slice (Text.byteSize before) (Text.byteSize (before ++ between)) = String.ofList between := by
  have htext : s.text = String.ofList (before ++ between ++ after) := by
    rw [← h, String.ofList_toList]
  rw [slice, htext, Text.byteSize_append, ← Text.utf8Len_eq_byteSize, ← Text.utf8Len_eq_byteSize]
  exact String.extract_of_valid before between after

/-- Between boundaries, slices that follow one another are one slice. -/
theorem slice_append_slice (ha : s.IsBoundary a) (hb : s.IsBoundary b) (hc : s.IsBoundary c)
    (hab : a ≤ b) (hbc : b ≤ c) : s.slice a b ++ s.slice b c = s.slice a c := by
  obtain ⟨before, restA, htextA, rfl⟩ := ha
  obtain ⟨beforeB, restB, htextB, rfl⟩ := hb
  obtain ⟨beforeC, restC, htextC, rfl⟩ := hc
  obtain ⟨first, rfl⟩ := Text.exists_eq_append_of_byteSize_le (htextA.symm.trans htextB) hab
  obtain ⟨second, rfl⟩ := Text.exists_eq_append_of_byteSize_le (htextB.symm.trans htextC) hbc
  have hboth : s.slice (Text.byteSize before) (Text.byteSize (before ++ (first ++ second))) =
      String.ofList (first ++ second) :=
    slice_eq (by rw [htextC, List.append_assoc before])
  rw [slice_eq htextB, slice_eq htextC, List.append_assoc, hboth, String.ofList_append]

/-! ## The boundaries of a text -/

/-- The boundaries of a text that starts at an offset. -/
def boundariesFrom (offset : Nat) : List Char → List Nat
  | [] => [offset]
  | c :: cs => offset :: boundariesFrom (offset + c.utf8Size) cs

theorem mem_boundariesFrom {offset : Nat} {cs : List Char} :
    a ∈ boundariesFrom offset cs ↔
      ∃ before after, cs = before ++ after ∧ offset + Text.byteSize before = a := by
  induction cs generalizing offset with
  | nil => simp [boundariesFrom, eq_comm]
  | cons c cs ih =>
    rw [boundariesFrom, List.mem_cons, ih]
    constructor
    · rintro (rfl | ⟨before, after, rfl, rfl⟩)
      · exact ⟨[], c :: cs, rfl, rfl⟩
      · exact ⟨c :: before, after, rfl, by rw [Text.byteSize_cons, Nat.add_assoc]⟩
    · rintro ⟨before, after, hcs, rfl⟩
      match before with
      | [] => exact .inl rfl
      | d :: before =>
        rw [List.cons_append, List.cons.injEq] at hcs
        obtain ⟨rfl, rfl⟩ := hcs
        exact .inr ⟨before, after, rfl, by rw [Text.byteSize_cons, Nat.add_assoc]⟩

instance (s : Source) (a : Nat) : Decidable (s.IsBoundary a) :=
  decidable_of_iff (a ∈ boundariesFrom 0 s.text.toList) (by
    rw [mem_boundariesFrom]
    simp only [Nat.zero_add, IsBoundary])

end Source

end ForbiddenCalls
