import ForbiddenCalls.Rule.Id
import ForbiddenCalls.Rule.Owner
import ForbiddenCalls.Rule.Template
import ForbiddenCalls.Severity

/-!
# Rules

A rule forbids calls of some methods of some owner types.  It is data: an id, a
title and a description for people, a severity, the owner types, the methods,
whether only calls with an explicit receiver count, and the message of a finding.

A rule is described by a `RuleDraft`, whose owners and methods are given in any
order and any number of times, and `RuleDraft.build` checks it: the id, then the
methods, then the owners, then the message, and the first fault is the answer.
-/

namespace ForbiddenCalls

/-- A checked rule. -/
structure Rule where
  id : RuleId
  title : String
  description : String
  severity : Severity
  owner : OwnerPredicate
  methods : NameSet
  requiresReceiver : Bool
  message : Template
  deriving DecidableEq, Repr

/-- The rule with another severity. -/
def Rule.withSeverity (r : Rule) (s : Severity) : Rule := { r with severity := s }

/-- The description of a rule before it is checked. -/
structure RuleDraft where
  id : String
  title : String := ""
  description : String := ""
  severity : Severity := .error
  owners : NameSet := .empty
  methods : NameSet := .empty
  requiresReceiver : Bool := false
  message : Option String := none
  deriving DecidableEq, Repr

namespace RuleDraft

/-- Adds an owner type. -/
def addOwner (d : RuleDraft) (owner : String) : RuleDraft :=
  { d with owners := d.owners.insert owner }

/-- Adds several owner types. -/
def addOwners (d : RuleDraft) (owners : List String) : RuleDraft :=
  owners.foldl addOwner d

/-- Adds methods. -/
def addMethods (d : RuleDraft) (methods : List String) : RuleDraft :=
  { d with methods := methods.foldl NameSet.insert d.methods }

/-- The title, which is the id where none is given. -/
def shownTitle (d : RuleDraft) : String :=
  if d.title = "" then d.id else d.title

/-- The source of the message: as given, else the title taken literally. -/
def messageSource (d : RuleDraft) : String :=
  match d.message with
  | some source => source
  | none => Template.literal d.shownTitle

/-- Whether the methods are missing, or one of them is blank. -/
def lacksMethods (d : RuleDraft) : Bool :=
  d.methods.toList.isEmpty || d.methods.toList.any Text.isBlankText

/-- Checks a draft. -/
def build (d : RuleDraft) : Except RuleError Rule :=
  match RuleId.ofText d.id with
  | .error e => .error e
  | .ok id =>
    if d.lacksMethods then .error (.noMethods d.id)
    else if (OwnerPredicate.ofSet d.owners).isBlank then .error (.noOwner d.id)
    else
      match Template.parse d.messageSource with
      | .error e => .error e
      | .ok message =>
        .ok {
          id
          title := d.shownTitle
          description := d.description
          severity := d.severity
          owner := OwnerPredicate.ofSet d.owners
          methods := d.methods
          requiresReceiver := d.requiresReceiver
          message }

variable {d : RuleDraft}

/-- A rule is built when its id, its methods, its owners and its message pass. -/
theorem build_eq_ok_iff {r : Rule} :
    d.build = .ok r ↔
      ∃ id message, RuleId.ofText d.id = .ok id ∧ d.lacksMethods = false ∧
        (OwnerPredicate.ofSet d.owners).isBlank = false ∧
        Template.parse d.messageSource = .ok message ∧
        r = {
          id, title := d.shownTitle, description := d.description, severity := d.severity,
          owner := .ofSet d.owners, methods := d.methods,
          requiresReceiver := d.requiresReceiver, message } := by
  unfold build
  cases RuleId.ofText d.id <;> cases d.lacksMethods <;>
    cases (OwnerPredicate.ofSet d.owners).isBlank <;> cases Template.parse d.messageSource <;>
      simp [eq_comm]

/-- The error is that of the first check that fails. -/
theorem build_eq_error_iff {e : RuleError} :
    d.build = .error e ↔
      RuleId.ofText d.id = .error e ∨
        ∃ id, RuleId.ofText d.id = .ok id ∧
          (d.lacksMethods = true ∧ e = .noMethods d.id ∨
            d.lacksMethods = false ∧
              ((OwnerPredicate.ofSet d.owners).isBlank = true ∧ e = .noOwner d.id ∨
                (OwnerPredicate.ofSet d.owners).isBlank = false ∧
                  Template.parse d.messageSource = .error e)) := by
  unfold build
  cases RuleId.ofText d.id <;> cases d.lacksMethods <;>
    cases (OwnerPredicate.ofSet d.owners).isBlank <;> cases Template.parse d.messageSource <;>
      simp [eq_comm]

end RuleDraft

end ForbiddenCalls
