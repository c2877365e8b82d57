import ForbiddenCalls.Text.Escapes
import ForbiddenCalls.Text.WidthRuns

/-!
# Widths of characters

How many columns a character takes on a terminal.  Controls and the signs that join
other characters take none, wide characters take two, and a single sign that stands
for three words takes three.
-/

namespace ForbiddenCalls.Text

/-- The sign for "and so on" of the Khmer script, which is a ligature of three. -/
def andSoOn : Char := '\u17D8'

/-- The number of columns that a character takes. -/
def charWidth (c : Char) : Nat :=
  if c.toNat < 128 then (if c.toNat < 32 ∨ c.toNat = 127 then 0 else 1)
  else if c = andSoOn then 3
  else if inRuns zeroWidthRuns c.toNat then 0
  else if inRuns doubleWidthRuns c.toNat then 2
  else 1

/-- The number of columns that several characters take. -/
def charsWidth : List Char → Nat
  | [] => 0
  | c :: cs => charWidth c + charsWidth cs

/-- The number of columns that a text takes, in which escape sequences may stand. -/
def displayWidth (cs : List Char) : Nat := charsWidth (shown .outside cs)

end ForbiddenCalls.Text
