import ForbiddenCalls.CommandLine.FatalError
import ForbiddenCalls.FileSystem.Resolve

/-!
# The starter configuration

The command `init` writes a configuration to begin with, which names every setting
and holds the standard values.
-/

namespace ForbiddenCalls.CommandLine

namespace Starter

/-- The file that the configuration is written to. -/
def path : FilePath := ⟨"callgate.toml"⟩

/-- The lines of the starter configuration. -/
def lines : List String :=
  ["# callgate configuration",
    "",
    "# Built-in rule set: \"android\" or \"none\"",
    "rule_set = \"android\"",
    "",
    "# Exit non-zero when a finding is at least this severe: \"info\", \"warning\", \"error\"",
    "fail_on = \"error\"",
    "",
    "[analyzer]",
    "# Root directory to analyze when no paths are given (default: current directory)",
    "# root = \"./app/src\"",
    "",
    "# Glob patterns to exclude from analysis",
    "exclude = [",
    "    \"**/build/**\",",
    "    \"**/generated/**\",",
    "]",
    "",
    "# Respect .gitignore files",
    "respect_gitignore = true",
    "",
    "# Worker threads (default: all cores)",
    "# parallelism = 4",
    "",
    "# Files larger than this are reported as parse failures instead of analyzed",
    "# max_file_bytes = 4194304",
    "",
    "# Per-rule overrides",
    "[rules.LogUsage]",
    "enabled = true",
    "# severity = \"warning\"",
    "",
    "# Custom forbidden calls",
    "# [[forbidden-call]]",
    "# id = \"NoSystemExit\"",
    "# title = \"System.exit\"",
    "# description = \"Let the framework manage the process lifecycle.\"",
    "# severity = \"error\"",
    "# owner_type = \"java.lang.System\"",
    "# methods = [\"exit\"]",
    "# requires_receiver = true",
    "# message = \"avoid \x7bowner\x7d.\x7bmethod\x7d()\""]

/-- The text of the starter configuration. -/
def text : String := String.join (lines.map (· ++ "\n"))

/-- What is printed once the file is written. -/
def advice : String :=
  "Created " ++ path.text ++ "\n\nNext steps:\n  1. Edit " ++ path.text ++
    " to configure rules\n  2. Run: callgate check\n"

/-- Writes the starter configuration.  A file that is there already is only replaced
by force. -/
def write (fs : FileSystem) (force : Bool) : Except FatalError FileSystem :=
  if fs.present path && !force then
    .error ⟨"Configuration file already exists at " ++ path.text ++
      ". Use --force to overwrite.", []⟩
  else (fs.writeText path text).mapError fun e => ⟨"Failed to write " ++ path.text, [e.message]⟩

end Starter

end ForbiddenCalls.CommandLine
