import ForbiddenCalls.Proofs.Slices
import Mathlib.Data.List.DropRight
import Mathlib.Data.List.Induction

/-!
# Lines and columns

The line and the column of an offset are looked up among the starts of the lines, which are
listed once for a text.  At a boundary this comes to counting in what stands in front of it:
the line by the line breaks there (`Source.line_eq`), and the column by the bytes behind the
last one of these (`Source.column_eq`).
-/

namespace ForbiddenCalls

namespace Text

/-- The line right behind a text, counted from one. -/
def lineBehind (before : List Char) : Nat := before.count '\n' + 1

/-- The column right behind a text, counted in bytes and from one. -/
def columnBehind (before : List Char) : Nat := byteSize (before.rtakeWhile (· != '\n')) + 1

end Text

/-! ## The starts of lines -/

section LineStarts

variable {offset p : Nat} {cs : List Char}

theorem lineStartsFrom_append (offset : Nat) (a b : List Char) :
    lineStartsFrom offset (a ++ b) =
      lineStartsFrom offset a ++ lineStartsFrom (offset + Text.byteSize a) b := by
  induction a generalizing offset with
  | nil => rfl
  | cons c a ih =>
    have hrest := ih (offset + c.utf8Size)
    rw [Nat.add_assoc, ← Text.byteSize_cons] at hrest
    rw [List.cons_append, lineStartsFrom, lineStartsFrom]
    split
    · rw [hrest, List.cons_append]
    · exact hrest

/-- A line starts behind the line break in front of it. -/
theorem mem_lineStartsFrom (h : p ∈ lineStartsFrom offset cs) :
    offset < p ∧ p ≤ offset + Text.byteSize cs := by
  induction cs generalizing offset with
  | nil => exact absurd h List.not_mem_nil
  | cons c cs ih =>
    have hc := Char.utf8Size_pos c
    have hlater : p ∈ lineStartsFrom (offset + c.utf8Size) cs →
        offset < p ∧ p ≤ offset + Text.byteSize (c :: cs) := by
      intro hp
      obtain ⟨hlt, hle⟩ := ih hp
      rw [Text.byteSize_cons]
      omega
    rw [lineStartsFrom] at h
    split at h
    · rcases List.mem_cons.1 h with rfl | hp
      · rw [Text.byteSize_cons]
        omega
      · exact hlater hp
    · exact hlater h

/-- A line starts for every line break. -/
theorem length_lineStartsFrom (offset : Nat) (cs : List Char) :
    (lineStartsFrom offset cs).length = cs.count '\n' := by
  induction cs generalizing offset with
  | nil => rfl
  | cons c cs ih =>
    rw [lineStartsFrom, List.count_cons]
    by_cases hbreak : c = '\n'
    · rw [if_pos hbreak, List.length_cons, ih, if_pos (beq_iff_eq.2 hbreak)]
    · rw [if_neg hbreak, ih, if_neg (mt beq_iff_eq.1 hbreak), Nat.add_zero]

/-- What stands behind the start of the last line has no line break. -/
theorem getLastD_lineStartsFrom_add (offset : Nat) (cs : List Char) :
    (lineStartsFrom offset cs).getLastD offset +
      Text.byteSize (cs.rtakeWhile (· != '\n')) = offset + Text.byteSize cs := by
  induction cs using List.reverseRecOn with
  | nil => rfl
  | append_singleton cs c ih =>
    have hsize : Text.byteSize (cs ++ [c]) = Text.byteSize cs + c.utf8Size :=
      Text.byteSize_append cs [c]
    rw [lineStartsFrom_append, List.rtakeWhile_concat, hsize]
    by_cases hbreak : c = '\n'
    · have hstart : lineStartsFrom (offset + Text.byteSize cs) [c] =
          [offset + Text.byteSize cs + c.utf8Size] := if_pos hbreak
      have hstop : ¬ (c != '\n') = true := by simp [hbreak]
      rw [hstart, List.getLastD_concat, if_neg hstop, Text.byteSize_nil]
      omega
    · have hstart : lineStartsFrom (offset + Text.byteSize cs) [c] = [] := if_neg hbreak
      have hmore : (c != '\n') = true := bne_iff_ne.2 hbreak
      have hlast : Text.byteSize (cs.rtakeWhile (· != '\n') ++ [c]) =
          Text.byteSize (cs.rtakeWhile (· != '\n')) + c.utf8Size := Text.byteSize_append _ [c]
      rw [hstart, List.append_nil, if_pos hmore, hlast]
      omega

end LineStarts

namespace Source

variable {text : String} {before after : List Char}

/-- The lines up to a boundary are those of the text in front of it. -/
theorem linesUpTo_eq (h : text.toList = before ++ after) :
    (ofText text).linesUpTo (Text.byteSize before) = lineStartsFrom 0 before := by
  have hbefore : ∀ p ∈ lineStartsFrom 0 before, decide (p ≤ Text.byteSize before) = true := by
    intro p hp
    have hle := (mem_lineStartsFrom hp).2
    exact decide_eq_true (by omega)
  have hafter : (lineStartsFrom (0 + Text.byteSize before) after).takeWhile
      (fun p => decide (p ≤ Text.byteSize before)) = [] := by
    refine List.takeWhile_eq_nil_iff.2 fun hlength hle => ?_
    have hlt := (mem_lineStartsFrom (List.get_mem _ ⟨0, hlength⟩)).1
    have hle := of_decide_eq_true hle
    omega
  rw [linesUpTo, ofText, h, lineStartsFrom_append, List.takeWhile_append_of_pos hbefore, hafter,
    List.append_nil]

/-- **The line of a boundary** is told by the line breaks in front of it. -/
theorem line_eq (h : text.toList = before ++ after) :
    (ofText text).line (Text.byteSize before) = Text.lineBehind before := by
  rw [line, linesUpTo_eq h, length_lineStartsFrom, Text.lineBehind]

/-- **The column of a boundary** is told by the bytes behind the last line break. -/
theorem column_eq (h : text.toList = before ++ after) :
    (ofText text).column (Text.byteSize before) = Text.columnBehind before := by
  have hlast := getLastD_lineStartsFrom_add 0 before
  rw [column, linesUpTo_eq h, Text.columnBehind]
  omega

end Source

end ForbiddenCalls
