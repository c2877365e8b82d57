import ForbiddenCalls.Text.Classes

/-!
# Cutting and trimming texts

The operations work on lists of characters; a text is taken apart with `toList`
at the point of use.  `cutAll` splits at every occurrence of a character,
`cutFirst` and `cutLast` at one of them.  The laws of `cutAll` and `cutFirst`
say that nothing but the separator is lost.
-/

namespace ForbiddenCalls.Text

/-- The pieces between the occurrences of `sep`; there is always at least one. -/
def cutAll {α : Type} [DecidableEq α] (sep : α) : List α → List (List α)
  | [] => [[]]
  | c :: cs =>
    if c = sep then [] :: cutAll sep cs
    else
      match cutAll sep cs with
      | [] => [[c]]
      | w :: ws => (c :: w) :: ws

theorem cutAll_ne_nil {α : Type} [DecidableEq α] (sep : α) (cs : List α) : cutAll sep cs ≠ [] := by
  cases cs with
  | nil => simp [cutAll]
  | cons c cs =>
    simp only [cutAll]
    split
    · simp
    · split <;> simp

/-- The pieces, with the separator between them, are the text. -/
theorem intercalate_cutAll {α : Type} [DecidableEq α] (sep : α) (cs : List α) :
    [sep].intercalate (cutAll sep cs) = cs := by
  induction cs with
  | nil => rfl
  | cons c cs ih =>
    simp only [cutAll]
    split
    · next h =>
      subst h
      cases hw : cutAll c cs with
      | nil => exact absurd hw (cutAll_ne_nil c cs)
      | cons w ws => rw [hw] at ih; simpa [List.intercalate] using ih
    · cases hw : cutAll sep cs with
      | nil => exact absurd hw (cutAll_ne_nil sep cs)
      | cons w ws =>
        rw [hw] at ih
        cases ws with
        | nil => simpa [List.intercalate] using ih
        | cons v vs => simpa [List.intercalate] using ih

/-- The text before and after the first `sep`. -/
def cutFirst (sep : Char) : List Char → Option (List Char × List Char)
  | [] => none
  | c :: cs =>
    if c = sep then some ([], cs)
    else (cutFirst sep cs).map fun p => (c :: p.1, p.2)

theorem eq_of_cutFirst {sep : Char} {cs a b : List Char} (h : cutFirst sep cs = some (a, b)) :
    cs = a ++ sep :: b := by
  induction cs generalizing a b with
  | nil => simp [cutFirst] at h
  | cons c cs ih =>
    simp only [cutFirst] at h
    split at h
    · next hc => simp only [Option.some.injEq, Prod.mk.injEq] at h; simp [← h.1, ← h.2, hc]
    · obtain ⟨p, hp, he⟩ := Option.map_eq_some_iff.1 h
      simp only [Prod.mk.injEq] at he
      rw [ih (a := p.1) (b := p.2) (by simpa using hp), ← he.1, ← he.2]
      rfl

/-- The text before and after the last `sep`. -/
def cutLast (sep : Char) (cs : List Char) : Option (List Char × List Char) :=
  (cutFirst sep cs.reverse).map fun p => (p.2.reverse, p.1.reverse)

/-- A text without its leading and trailing blanks. -/
def trimBlanks (cs : List Char) : List Char :=
  ((cs.dropWhile isBlank).reverse.dropWhile isBlank).reverse

/-- A text without its blanks. -/
def compact (cs : List Char) : List Char :=
  cs.filter fun c => !isBlank c

@[simp] theorem compact_append (a b : List Char) : compact (a ++ b) = compact a ++ compact b := by
  simp [compact]

/-- Drops `suffix` from the end of a text as long as it stands there.  The
texts are given back to front. -/
def dropRepeated (suffix : List Char) (cs : List Char) : List Char :=
  if _h : suffix.isPrefixOf cs ∧ suffix ≠ [] then
    dropRepeated suffix (cs.drop suffix.length)
  else cs
  termination_by cs.length
  decreasing_by
    have hs := List.length_pos_iff.2 _h.2
    have hl := (List.isPrefixOf_iff_prefix.1 _h.1).length_le
    simp only [List.length_drop]
    omega

end ForbiddenCalls.Text
