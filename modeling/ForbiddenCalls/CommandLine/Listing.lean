import ForbiddenCalls.BuiltIn
import ForbiddenCalls.CommandLine.FatalError

/-!
# Listing the built-in rules

The command `list-rules` prints a table for each built-in rule set, or for the one
that is asked for.  A severity is printed in its colour, and the codes for that
count in the width of its column.
-/

namespace ForbiddenCalls.CommandLine

/-- A text between the codes that switch a colour on and off. -/
def coloured (code : Nat) (text : String) : String :=
  "\x1b[" ++ toString code ++ "m" ++ text ++ "\x1b[0m"

namespace Listing

/-- The number of the colour of a severity. -/
def colour : Severity → Nat
  | .error => 31
  | .warning => 33
  | .info => 34

/-- A text filled up with blanks to the given width. -/
def cell (width : Nat) (text : String) : String :=
  text ++ String.ofList (List.replicate (width - text.length) ' ')

/-- A line of the table. -/
def row (id severity owner methods title : String) : String :=
  "  " ++ " ".intercalate
    [cell 16 id, cell 18 severity, cell 24 owner, cell 20 methods, title] ++ "\n"

/-- The head of the table. -/
def header : String :=
  row "Id" "Severity" "Owner" "Methods" "Title" ++
    "  " ++ String.ofList (List.replicate 90 '-') ++ "\n"

/-- The line of a rule. -/
def ruleRow (r : Rule) : String :=
  row r.id.text (coloured (colour r.severity) r.severity.name) r.owner.text
    (",".intercalate r.methods.toList) r.title

/-- The table of a rule set. -/
def table (s : RuleSet) (rules : List Rule) : String :=
  s.id ++ " - " ++ s.description ++ "\n\n" ++
    if rules.isEmpty then "  (no rules)\n\n"
    else header ++ String.join (rules.map ruleRow) ++ "\n"

/-- How to choose a rule set. -/
def hint : String :=
  "Select a set with `rule_set = \"<id>\"` in callgate.toml or:\n" ++
    "  callgate check --rule-set " ++ RuleSet.standard.id ++ "\n"

/-- The rules of a built-in rule set. -/
def rulesOf (s : RuleSet) : Except FatalError (List Rule) :=
  s.rules.mapError fun e => ⟨"Built-in rule set is invalid", [e.diagnostic.message]⟩

/-- The listing of all rule sets, or of the one with the given id. -/
def text (asked : Option String) : Except FatalError String := do
  let sets ← match asked with
    | none => .ok RuleSet.all
    | some id =>
      match RuleSet.ofId? id with
      | some s => .ok [s]
      | none => .error ⟨"Unknown rule set `" ++ id ++ "`", []⟩
  let tables ← sets.mapM fun s => (rulesOf s).map (table s)
  return String.join tables ++ hint

end Listing

end ForbiddenCalls.CommandLine
