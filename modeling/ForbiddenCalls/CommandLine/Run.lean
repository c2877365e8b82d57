import ForbiddenCalls.CommandLine.Check
import ForbiddenCalls.CommandLine.Starter

/-!
# Running a command

A run is a function of the arguments, the environment and the file tree.  It gives
the exit code, what is printed on the standard output and beside it, and the tree
afterwards.  The exit code is 0 for success, 1 for a fatal error or a check that is
not clean, and 2 for arguments that cannot be taken.
-/

namespace ForbiddenCalls.CommandLine

/-- What comes of a run. -/
structure Outcome where
  code : Nat := 0
  stdout : String := ""
  stderr : String := ""
  fs : FileSystem

/-- The name and the version of the program. -/
def versionText : String := "callgate 0.1.0\n"

/-- How the program is used. -/
def usageText : String :=
  "Forbidden-call linter for Java and Kotlin sources\n\n" ++
    "Usage: callgate [OPTIONS] <COMMAND>\n\n" ++
    "Commands:\n" ++
    "  check       Check sources for forbidden calls\n" ++
    "  list-rules  List the rules of a built-in rule set\n" ++
    "  init        Initialize configuration file\n" ++
    "  help        Print this message\n\n" ++
    "Options:\n" ++
    "  -v, --verbose          Enable verbose output\n" ++
    "  -c, --config <CONFIG>  Path to configuration file\n" ++
    "  -h, --help             Print help\n" ++
    "  -V, --version          Print version\n"

/-- The outcome of a command that may fail. -/
def Outcome.ofExcept (fs : FileSystem) : Except FatalError Outcome → Outcome
  | .ok outcome => outcome
  | .error e => { code := 1, stderr := e.text, fs }

/-- Runs a command. -/
def Invocation.run (i : Invocation) (fs : FileSystem) (env : List (String × String))
    (languages : List Language) : Except FatalError Outcome :=
  match i.command with
  | .check => do
    let checked ← Check.run fs env languages i.settings
    let (stdout, stderr) := Check.printed fs i.settings.format checked
    let code := if Check.isClean checked.config checked.report then 0 else 1
    return { code, stdout, stderr, fs }
  | .listRules => return { stdout := ← Listing.text i.settings.ruleSet, fs }
  | .init => return { stdout := Starter.advice, fs := ← Starter.write fs i.settings.force }
  | .help => return { stdout := usageText, fs }

/-- Runs the program. -/
def run (args : List String) (env : List (String × String)) (languages : List Language)
    (fs : FileSystem) : Outcome :=
  match Invocation.parse args with
  | .error .help => { stdout := usageText, fs }
  | .error .version => { stdout := versionText, fs }
  | .error (.usage e) => { code := 2, stderr := "error: " ++ e.message ++ "\n\n" ++ usageText, fs }
  | .ok i => .ofExcept fs (i.run fs env languages)

end ForbiddenCalls.CommandLine
