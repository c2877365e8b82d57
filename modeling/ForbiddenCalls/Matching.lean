import ForbiddenCalls.CallSite
import ForbiddenCalls.Rule.Basic

/-!
# Matching calls against rules

A call matches a rule when it has a receiver if the rule asks for one, its method
is among the rule's methods, and its owner is known and accepted.  The reason for
a mismatch is the first of these, in this order, that fails.  A call whose owner
is not known never matches, so that missing information hides a finding instead
of inventing one.
-/

namespace ForbiddenCalls

/-- How a call compares with a rule. -/
inductive MatchOutcome where
  | matched
  | missingReceiver
  | methodMismatch
  | unresolved
  | ownerMismatch
  deriving DecidableEq, Repr

namespace Rule

/-- Compares a call with the rule. -/
def explain (r : Rule) (c : CallSite) : MatchOutcome :=
  if r.requiresReceiver && !c.hasReceiver then .missingReceiver
  else if !r.methods.contains c.method then .methodMismatch
  else
    match c.owner with
    | .unresolved => .unresolved
    | .resolved type => if r.owner.accepts type then .matched else .ownerMismatch

/-- Whether a call matches the rule. -/
def isMatch (r : Rule) (c : CallSite) : Bool := r.explain c == .matched

/-- The conditions for a match, said at once. -/
theorem isMatch_iff {r : Rule} {c : CallSite} :
    r.isMatch c = true ↔
      (r.requiresReceiver = true → c.hasReceiver = true) ∧ c.method ∈ r.methods ∧
        ∃ type, c.owner = .resolved type ∧ r.owner.accepts type = true := by
  unfold isMatch explain
  cases hr : r.requiresReceiver <;> cases hc : c.hasReceiver <;>
    by_cases hm : c.method ∈ r.methods <;> cases ho : c.owner <;>
      simp_all [NameSet.contains]

/-- The severity of a rule plays no part in matching. -/
@[simp] theorem isMatch_withSeverity (r : Rule) (s : Severity) (c : CallSite) :
    (r.withSeverity s).isMatch c = r.isMatch c := rfl

/-- The message of the rule for a call. -/
def messageFor (r : Rule) (c : CallSite) : String :=
  r.message.render ⟨c.method, c.owner.type?.getD "", c.receiver.getD ""⟩

end Rule

end ForbiddenCalls
