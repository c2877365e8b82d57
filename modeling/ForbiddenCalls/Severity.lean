import ForbiddenCalls.Text.DottedName

/-!
# Severities

Three levels, from `info` over `warning` to `error`.  A level has one name, which
is read and written in lower case only.
-/

namespace ForbiddenCalls

/-- How much a finding matters. -/
inductive Severity where
  | info
  | warning
  | error
  deriving DecidableEq, Repr, Inhabited

namespace Severity

/-- The place of a severity in the order. -/
def rank : Severity → Nat
  | info => 0
  | warning => 1
  | error => 2

instance : LE Severity := ⟨fun a b => a.rank ≤ b.rank⟩

instance (a b : Severity) : Decidable (a ≤ b) := inferInstanceAs (Decidable (a.rank ≤ b.rank))

/-- The name of a severity. -/
def name : Severity → String
  | info => "info"
  | warning => "warning"
  | error => "error"

/-- The severity with a given name. -/
def ofName? : String → Option Severity
  | "info" => some info
  | "warning" => some warning
  | "error" => some error
  | _ => none

@[simp] theorem ofName?_name (s : Severity) : ofName? s.name = some s := by cases s <;> rfl

/-- All severities in ascending order. -/
def all : List Severity := [info, warning, error]

end Severity

end ForbiddenCalls
