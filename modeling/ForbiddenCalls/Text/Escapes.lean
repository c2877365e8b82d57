/-!
# Escape sequences

A text for a terminal can hold escape sequences, which are not shown.  One begins
with the escape character.  If a bracket comes next, the sequence goes on to the
first character from `@` to `~`; if a closing bracket comes next, it is a command,
which goes on to a bell or to an escape character with a backslash; and else it ends
with the next character.
-/

namespace ForbiddenCalls.Text

/-- The character that begins an escape sequence. -/
def escapeChar : Char := '\x1b'

/-- Where in an escape sequence a text stands. -/
inductive EscapeState where
  | outside
  | opened
  | sequence
  | command (escaped : Bool)
  deriving DecidableEq, Repr

namespace EscapeState

/-- The state after one more character. -/
def next : EscapeState → Char → EscapeState
  | outside, c => if c = escapeChar then opened else outside
  | opened, c => if c = '[' then sequence else if c = ']' then command false else outside
  | sequence, c => if '@' ≤ c ∧ c ≤ '~' then outside else sequence
  | command escaped, c =>
    if c = '\x07' ∨ c = '\\' ∧ escaped then outside else command (c == escapeChar)

/-- Whether a character is shown. -/
def shows : EscapeState → Char → Bool
  | outside, c => c != escapeChar
  | _, _ => false

end EscapeState

/-- The characters of a text that are shown. -/
def shown (s : EscapeState) : List Char → List Char
  | [] => []
  | c :: cs => if s.shows c then c :: shown (s.next c) cs else shown (s.next c) cs

end ForbiddenCalls.Text
