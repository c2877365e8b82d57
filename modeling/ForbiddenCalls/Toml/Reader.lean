/-!
# Reading characters

A reader takes a value off the front of a list of characters, or fails.  Readers
compose as a state over `Option`, with a choice that starts again where the first
alternative started.  `many` repeats a reader for as long as it succeeds and makes
the rest shorter, so it ends on every input.
-/

namespace ForbiddenCalls

/-- Takes a value off the front of a list of characters. -/
abbrev Reader (α : Type) : Type := StateT (List Char) Option α

namespace Reader

variable {α β : Type}

/-- Takes one character that passes a test. -/
def charWhere (test : Char → Bool) : Reader Char
  | c :: cs => if test c then some (c, cs) else none
  | [] => none

/-- Takes one given character. -/
def char (c : Char) : Reader Unit := do
  let _ ← charWhere (· == c)

/-- Takes the given characters. -/
def chars : List Char → Reader Unit
  | [] => pure ()
  | c :: cs => do
    char c
    chars cs

/-- Takes a given text. -/
def word (s : String) : Reader Unit := chars s.toList

/-- Succeeds where nothing is left. -/
def atEnd : Reader Unit
  | [] => some ((), [])
  | _ :: _ => none

/-- Takes as many values as there are. -/
def many (p : Reader α) (s : List Char) : Option (List α × List Char) :=
  match p s with
  | none => some ([], s)
  | some (a, rest) =>
    if _h : rest.length < s.length then (many p rest).map fun r => (a :: r.1, r.2)
    else some ([], s)
  termination_by s.length

/-- Takes at least one value. -/
def some' (p : Reader α) : Reader (List α) := do
  let a ← p
  let as ← many p
  pure (a :: as)

/-- Takes exactly `n` values. -/
def times (p : Reader α) : Nat → Reader (List α)
  | 0 => pure []
  | n + 1 => do
    let a ← p
    let as ← times p n
    pure (a :: as)

/-- Takes at least one value, with separators between the values. -/
def separated (p : Reader α) (separator : Reader β) : Reader (List α) := do
  let a ← p
  let as ← many do
    let _ ← separator
    p
  pure (a :: as)

/-- Takes a value if there is one. -/
def maybe (p : Reader α) : Reader (Option α) := fun s =>
  match p s with
  | none => some (none, s)
  | some (a, rest) => some (some a, rest)

/-- Runs a reader and gives the characters that it took. -/
def taken (p : Reader α) : Reader (List Char) := fun s =>
  (p s).map fun r => (s.take (s.length - r.2.length), r.2)

/-- Checks a condition. -/
def require (b : Bool) : Reader Unit := if b then pure () else failure

end Reader

end ForbiddenCalls
