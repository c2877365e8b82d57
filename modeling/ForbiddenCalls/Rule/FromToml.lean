import ForbiddenCalls.Config.FromToml
import ForbiddenCalls.Rule.Definition

/-!
# Reading rules from a document

The key `forbidden-call` of a TOML document holds the definitions of rules.  All
other keys of the document are ignored, but a definition may have no key that it
does not know.
-/

namespace ForbiddenCalls

open Toml (Value)

/-- Why there are no rules for a document. -/
inductive LoadError where
  | notToml
  | definition (e : DefinitionError)
  deriving DecidableEq, Repr

/-- The printed form of the error. -/
def LoadError.diagnostic : LoadError → Diagnostic
  | notToml => ⟨"TOML parse error", some "callgate::declarative::toml", none⟩
  | definition e => e.diagnostic

namespace Definition

/-- The fields of a definition. -/
def fieldNames : List String :=
  ["id", "title", "description", "severity", "owner_type", "owner_types", "methods",
    "requires_receiver", "message"]

/-- Reads a definition. -/
def ofToml? (v : Value) : Option Definition :=
  if v.hasOnly fieldNames then
    match v.fields? fieldNames with
    | some [some id, title, description, severity, ownerType, ownerTypes, some methods,
        requiresReceiver, message] => do
      let id ← id.string?
      let title ← readSetting Value.string? title
      let description ← readSetting Value.string? description
      let severity ← readSetting Value.string? severity
      let ownerType ← readSetting Value.string? ownerType
      let ownerTypes ← readSetting Value.strings? ownerTypes
      let methods ← methods.strings?
      let requiresReceiver ← readSetting Value.bool? requiresReceiver
      let message ← readSetting Value.string? message
      some { id, title, description, severity := severity.getD "error", ownerType, ownerTypes,
             methods, requiresReceiver := requiresReceiver.getD false, message }
    | _ => none
  else none

/-- Reads the definitions in the value of a document. -/
def listOfToml? (v : Value) : Option (List Definition) :=
  match v.fields? ["forbidden-call"] with
  | some [none] => some []
  | some [some definitions] => definitions.elements?.bind fun ds => ds.mapM ofToml?
  | _ => none

end Definition

/-- The rules that a document defines. -/
def loadRules (text : String) : Except LoadError (List Rule) :=
  match (Toml.parse? text).bind Definition.listOfToml? with
  | none => .error .notToml
  | some ds => (Definition.load ds).mapError .definition

end ForbiddenCalls
