/-!
# What a pattern leaves of a text

A part of a pattern takes something off the front of a text, often in more than
one way.  `Step` gives everything that may be left.  The parts of a pattern are
taken one after the other, and the pattern accepts a text when it may leave
nothing of it.  Between two parts every rest is kept once, so the work is bounded
by the number of parts and the length of the text.

A text is a list of characters for some patterns, and of bytes for others.
-/

namespace ForbiddenCalls.Pattern

variable {α : Type}

/-- Everything that may be left of a text. -/
abbrev Step (α : Type) : Type := List α → List (List α)

namespace Step

/-- Takes nothing. -/
def nothing : Step α := fun text => [text]

/-- Takes one element that passes a test. -/
def one (test : α → Bool) : Step α
  | [] => []
  | a :: rest => if test a then [rest] else []

/-- Takes the given elements. -/
def exactly [BEq α] : List α → Step α
  | [], text => [text]
  | _ :: _, [] => []
  | a :: as, b :: rest => if a == b then exactly as rest else []

/-- Takes any number of elements that pass a test. -/
def run (test : α → Bool) : Step α
  | [] => [[]]
  | a :: rest => (a :: rest) :: (if test a then run test rest else [])

/-- Takes any number of elements. -/
def anything : Step α := run fun _ => true

/-- Takes everything up to and including some element that passes a test. -/
def through (test : α → Bool) : Step α
  | [] => []
  | a :: rest => if test a then rest :: through test rest else through test rest

/-- Takes what either of two steps takes. -/
def either (s t : Step α) : Step α := fun text => s text ++ t text

/-- Takes what one step takes and then what another one does. -/
def andThen [BEq α] (s t : Step α) : Step α := fun text => ((s text).flatMap t).eraseDups

/-- Whether a step may leave nothing of a text. -/
def accepts (s : Step α) (text : List α) : Bool := (s text).any List.isEmpty

end Step

end ForbiddenCalls.Pattern
