import ForbiddenCalls.Diagnostic

/-!
# Errors in a rule

The reasons why the description of a rule is refused, with their wording.
-/

namespace ForbiddenCalls

/-- Why a rule is not well formed. -/
inductive RuleError where
  | emptyId
  | invalidId (id : String)
  | noMethods (id : String)
  | noOwner (id : String)
  | unknownPlaceholder (name : String)
  | unclosedBrace (template : String)
  deriving DecidableEq, Repr

namespace RuleError

/-- The message of a rule error. -/
def message : RuleError → String
  | emptyId => "rule id must not be empty"
  | invalidId id =>
    "invalid rule id `" ++ id ++ "`: only ASCII letters, digits, `_` and `-` are allowed"
  | noMethods id => "rule `" ++ id ++ "` has an empty method set"
  | noOwner id => "rule `" ++ id ++ "` has an empty owner type"
  | unknownPlaceholder name =>
    "unknown placeholder `\x7b" ++ name ++ "\x7d` in message template"
  | unclosedBrace template => "unclosed `\x7b` in message template `" ++ template ++ "`"

/-- The code of a rule error. -/
def code : RuleError → String
  | emptyId => "callgate::rule::empty_id"
  | invalidId _ => "callgate::rule::invalid_id"
  | noMethods _ => "callgate::rule::no_methods"
  | noOwner _ => "callgate::rule::no_owner"
  | unknownPlaceholder _ => "callgate::rule::placeholder"
  | unclosedBrace _ => "callgate::rule::unclosed_brace"

/-- The help for a rule error. -/
def help : RuleError → Option String
  | unknownPlaceholder _ =>
    some "supported placeholders: \x7bmethod\x7d, \x7bowner\x7d, \x7breceiver\x7d"
  | _ => none

/-- The printed form of a rule error. -/
def diagnostic (e : RuleError) : Diagnostic := ⟨e.message, some e.code, e.help⟩

end RuleError

end ForbiddenCalls
