import ForbiddenCalls.Rule.Basic

/-!
# Built-in rules

Two rule sets come with the checker.  The set `android` holds one rule, which asks
for the project's own wrapper in place of the platform's log; the set `none` is
empty.
-/

namespace ForbiddenCalls

namespace BuiltIn

/-- The description of the rule about the platform's log. -/
def logUsage : RuleDraft where
  id := "LogUsage"
  title := "Log Usage"
  description := "Please use the unified HLog wrapper instead of android.util.Log."
  owners := .ofList ["android.util.Log"]
  methods := .ofList ["i", "d", "e", "v", "w", "wtf"]
  requiresReceiver := true
  message := some "⇢ use HLog instead of Log.\x7bmethod\x7d()"

end BuiltIn

/-- A built-in rule set. -/
inductive RuleSet where
  | android
  | none
  deriving DecidableEq, Repr

namespace RuleSet

/-- All built-in rule sets. -/
def all : List RuleSet := [android, none]

/-- The rule set that is used where none is asked for. -/
def standard : RuleSet := android

/-- The id of a rule set. -/
def id : RuleSet → String
  | android => "android"
  | none => "none"

/-- The rule set with a given id. -/
def ofId? : String → Option RuleSet
  | "android" => some android
  | "none" => some none
  | _ => Option.none

@[simp] theorem ofId?_id (s : RuleSet) : ofId? s.id = some s := by cases s <;> rfl

/-- What a rule set is for. -/
def description : RuleSet → String
  | android => "Android platform APIs that must go through project wrappers"
  | none => "No built-in rules"

/-- The descriptions of the rules of a set. -/
def drafts : RuleSet → List RuleDraft
  | android => [BuiltIn.logUsage]
  | none => []

/-- The rules of a set. -/
def rules (s : RuleSet) : Except RuleError (List Rule) := s.drafts.mapM RuleDraft.build

end RuleSet

end ForbiddenCalls
