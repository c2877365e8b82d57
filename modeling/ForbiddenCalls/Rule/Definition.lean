import ForbiddenCalls.Rule.Basic

/-!
# Definitions of rules in a document

A document defines rules as a list of tables with the fields of a rule.  A table
names either one owner type or a list of them, and its severity by name; a
`Definition` is such a table with its fields as they are written.  `load` turns the
definitions of a document into rules, in their order, and the first one that is
wrong decides the answer: its owners are looked at first, then its severity, then
all that makes a rule well formed.
-/

namespace ForbiddenCalls

/-- The definition of a rule as it is written. -/
structure Definition where
  id : String
  title : Option String := none
  description : Option String := none
  severity : String := "error"
  ownerType : Option String := none
  ownerTypes : Option (List String) := none
  methods : List String
  requiresReceiver : Bool := false
  message : Option String := none
  deriving DecidableEq, Repr

/-- Why a definition is not one of a rule.  The label says which one it is. -/
inductive DefinitionError where
  | invalidRule (label : String) (cause : RuleError)
  | ambiguousOwner (label : String)
  | unknownSeverity (label value : String)
  deriving DecidableEq, Repr

/-- The printed form of the error. -/
def DefinitionError.diagnostic : DefinitionError → Diagnostic
  | invalidRule label cause =>
    ⟨label ++ ": " ++ cause.message, some "callgate::declarative::invalid_rule", none⟩
  | ambiguousOwner label =>
    ⟨label ++ ": exactly one of `owner_type` or `owner_types` must be set",
      some "callgate::declarative::ambiguous_owner", none⟩
  | unknownSeverity label value =>
    ⟨label ++ ": unknown severity `" ++ value ++ "`, expected: error, warning, info",
      some "callgate::declarative::severity", none⟩

namespace Definition

/-- The name of a definition in messages: its place, counted from zero, and its
id. -/
def label (index : Nat) (d : Definition) : String :=
  "forbidden-call[" ++ toString index ++ "] '" ++ d.id ++ "'"

/-- The owner types, if exactly one of the two fields for them is set. -/
def owners? (d : Definition) : Option (List String) :=
  match d.ownerType, d.ownerTypes with
  | some type, none => some [type]
  | none, some types => some types
  | _, _ => none

/-- The draft of a rule with the fields of the definition. -/
def draft (d : Definition) (severity : Severity) (owners : List String) : RuleDraft where
  id := d.id
  title := d.title.getD ""
  description := d.description.getD ""
  severity
  owners := .ofList owners
  methods := .ofList d.methods
  requiresReceiver := d.requiresReceiver
  message := d.message

/-- The rule that a definition stands for. -/
def toRule (index : Nat) (d : Definition) : Except DefinitionError Rule :=
  match d.owners? with
  | none => .error (.ambiguousOwner (d.label index))
  | some owners =>
    match Severity.ofName? d.severity with
    | none => .error (.unknownSeverity (d.label index) d.severity)
    | some severity => (d.draft severity owners).build.mapError (.invalidRule (d.label index))

/-- The rules for definitions, the first of which has the given place. -/
def loadFrom (index : Nat) : List Definition → Except DefinitionError (List Rule)
  | [] => .ok []
  | d :: ds =>
    match d.toRule index with
    | .error e => .error e
    | .ok r => (loadFrom (index + 1) ds).map (r :: ·)

/-- The rules for all definitions of a document. -/
def load (ds : List Definition) : Except DefinitionError (List Rule) := loadFrom 0 ds

end Definition

end ForbiddenCalls
