/-!
# Sizes in bytes

How many bytes the UTF-8 form of a text takes.  Offsets in a source count bytes, so
the size of what stands in front of a place is its offset.
-/

namespace ForbiddenCalls.Text

/-- The number of bytes of a text. -/
def byteSize : List Char → Nat
  | [] => 0
  | c :: cs => c.utf8Size + byteSize cs

@[simp] theorem byteSize_nil : byteSize [] = 0 := rfl

@[simp] theorem byteSize_cons (c : Char) (cs : List Char) :
    byteSize (c :: cs) = c.utf8Size + byteSize cs := rfl

/-- The size of two texts together is the sum of their sizes. -/
theorem byteSize_append (a b : List Char) : byteSize (a ++ b) = byteSize a + byteSize b := by
  induction a with
  | nil => rw [List.nil_append, byteSize_nil, Nat.zero_add]
  | cons c cs ih => rw [List.cons_append, byteSize_cons, ih, byteSize_cons, Nat.add_assoc]

/-- Only the empty text takes no bytes. -/
theorem byteSize_eq_zero_iff {cs : List Char} : byteSize cs = 0 ↔ cs = [] := by
  cases cs with
  | nil => simp
  | cons c cs =>
    have hc := Char.utf8Size_pos c
    simp only [byteSize_cons, List.cons_ne_nil, iff_false]
    omega

end ForbiddenCalls.Text
