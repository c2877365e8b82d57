/-!
# Source texts

A source is a text together with the offsets at which its lines start, counted in
bytes.  Spans and places are in bytes too.
-/

namespace ForbiddenCalls

/-- The offsets right behind the line breaks of a text that starts at `offset`. -/
def lineStartsFrom (offset : Nat) : List Char → List Nat
  | [] => []
  | c :: cs =>
    let next := offset + c.utf8Size
    if c = '\n' then next :: lineStartsFrom next cs else lineStartsFrom next cs

/-- A text and the offsets of its lines after the first one. -/
structure Source where
  text : String
  laterLines : List Nat

namespace Source

/-- The source with a given text. -/
def ofText (text : String) : Source := ⟨text, lineStartsFrom 0 text.toList⟩

/-- The text between two offsets. -/
def slice (s : Source) (start stop : Nat) : String :=
  String.Pos.Raw.extract s.text ⟨start⟩ ⟨stop⟩

/-- The starts of the later lines that are not behind an offset. -/
def linesUpTo (s : Source) (offset : Nat) : List Nat :=
  s.laterLines.takeWhile (· ≤ offset)

/-- The line of an offset, counted from one. -/
def line (s : Source) (offset : Nat) : Nat := (s.linesUpTo offset).length + 1

/-- The column of an offset in bytes, counted from one. -/
def column (s : Source) (offset : Nat) : Nat :=
  offset - (s.linesUpTo offset).getLastD 0 + 1

end Source

end ForbiddenCalls
