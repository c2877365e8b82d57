import ForbiddenCalls.FilePath
import ForbiddenCalls.Rule.Basic

/-!
# Configuration

The settings of a run: which built-in rule set to start from, from which severity
on a run fails, how sources are found and read, and for each rule whether it is
switched off and whether its severity is replaced.
-/

namespace ForbiddenCalls

/-- How sources are found and read. -/
structure AnalyzerConfig where
  root : FilePath := ⟨"."⟩
  exclude : List String := ["**/build/**", "**/generated/**"]
  respectGitignore : Bool := true
  parallelism : Option Nat := none
  maxFileBytes : Nat := 4 * 1024 * 1024
  deriving DecidableEq, Repr, Inhabited

/-- What the configuration says about one rule. -/
structure RuleConfig where
  enabled : Option Bool := none
  severity : Option Severity := none
  deriving DecidableEq, Repr, Inhabited

/-- The settings of a run. -/
structure Config where
  ruleSet : Option String := none
  failOn : Option Severity := none
  analyzer : AnalyzerConfig := {}
  rules : List (String × RuleConfig) := []
  deriving DecidableEq, Repr, Inhabited

namespace Config

/-- What the configuration says about the rule with a given id. -/
def ruleConfig (c : Config) (id : String) : RuleConfig :=
  (c.rules.lookup id).getD {}

/-- A rule is enabled unless it is switched off. -/
def isRuleEnabled (c : Config) (id : String) : Bool :=
  (c.ruleConfig id).enabled.getD true

/-- The severity that replaces the one of a rule. -/
def ruleSeverity? (c : Config) (id : String) : Option Severity :=
  (c.ruleConfig id).severity

/-- The severity from which on a run fails. -/
def failThreshold (c : Config) : Severity := c.failOn.getD .error

/-- A rule with the severity that the configuration gives it. -/
def adjust (c : Config) (r : Rule) : Rule :=
  match c.ruleSeverity? r.id.text with
  | some s => r.withSeverity s
  | none => r

/-- Leaves out the rules that are switched off and replaces severities. -/
def applyOverrides (c : Config) (rules : List Rule) : List Rule :=
  (rules.filter fun r => c.isRuleEnabled r.id.text).map c.adjust

/-- A rule is enabled unless its entry says that it is not. -/
theorem isRuleEnabled_eq (c : Config) (id : String) :
    c.isRuleEnabled id = ((c.ruleConfig id).enabled != some false) := by
  rw [isRuleEnabled]
  cases (c.ruleConfig id).enabled with
  | none => rfl
  | some enabled => cases enabled <;> rfl

@[simp] theorem id_adjust (c : Config) (r : Rule) : (c.adjust r).id = r.id := by
  unfold adjust; split <;> rfl

end Config

end ForbiddenCalls
