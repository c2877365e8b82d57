import ForbiddenCalls.Analysis.SourceUnit
import ForbiddenCalls.CallSite

/-!
# Adapters

The analysis itself knows no language.  An adapter turns a unit and its text into
the calls in it, or says why it cannot, and it names the owner of a call.  What
it is responsible for is a matter of file extensions.
-/

namespace ForbiddenCalls

/-- Why there are no calls for a unit. -/
inductive ParseError where
  | malformed (line column : Nat) (reason : String)
  | unsupported (extension : String)
  | tooLarge (size limit : Nat)
  | parserFailed (reason : String)
  deriving DecidableEq, Repr

namespace ParseError

/-- The message of a parse error. -/
def message : ParseError → String
  | malformed line column reason =>
    "syntax error at " ++ toString line ++ ":" ++ toString column ++ ": " ++ reason
  | unsupported extension => "unsupported language for extension `" ++ extension ++ "`"
  | tooLarge size limit =>
    "file is " ++ toString size ++ " bytes, over the " ++ toString limit ++ " byte limit"
  | parserFailed reason => "parser failed: " ++ reason

/-- The line and column of a parse error, when it is about a place. -/
def position? : ParseError → Option (Nat × Nat)
  | malformed line column _ => some (line, column)
  | _ => none

end ParseError

/-- The way into one or more languages. -/
structure Adapter where
  extensions : List String
  traverse : SourceUnit → String → Except ParseError (List CallSite)
  resolveOwner : CallSite → OwnerType := CallSite.owner

namespace Adapter

/-- Whether the adapter is responsible for a unit. -/
def handles (a : Adapter) (u : SourceUnit) : Bool := a.extensions.contains u.extension

/-- The calls of a unit, each with its owner as the adapter resolves it. -/
def calls (a : Adapter) (u : SourceUnit) (text : String) : Except ParseError (List CallSite) :=
  (a.traverse u text).map fun cs => cs.map fun c => { c with owner := a.resolveOwner c }

end Adapter

end ForbiddenCalls
