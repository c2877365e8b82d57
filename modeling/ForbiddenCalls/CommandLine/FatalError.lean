/-!
# Fatal errors

An error that ends the program says what failed and then what it failed for, from
the nearest cause to the farthest one.  Several causes are numbered.
-/

namespace ForbiddenCalls.CommandLine

/-- What failed, and the chain of its causes. -/
structure FatalError where
  message : String
  causes : List String := []
  deriving DecidableEq, Repr, Inhabited

namespace FatalError

/-- A text with the same indentation in front of each line after the first one. -/
def indented (indentation text : String) : String :=
  ("\n" ++ indentation).intercalate (text.splitOn "\n")

/-- The lines for causes, numbered from `n`. -/
def numbered (n : Nat) : List String → String
  | [] => ""
  | cause :: rest =>
    let number := toString n
    "\n" ++ String.ofList (List.replicate (5 - number.length) ' ') ++ number ++ ": " ++
      indented "       " cause ++ numbered (n + 1) rest

/-- What is printed for an error. -/
def text (e : FatalError) : String :=
  let causes :=
    match e.causes with
    | [] => ""
    | [cause] => "\n\nCaused by:\n    " ++ indented "    " cause
    | causes => "\n\nCaused by:" ++ numbered 0 causes
  "Error: " ++ e.message ++ causes ++ "\n"

end FatalError

end ForbiddenCalls.CommandLine
