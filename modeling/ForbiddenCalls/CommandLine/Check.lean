import ForbiddenCalls.Analysis.Run
import ForbiddenCalls.CommandLine.Arguments
import ForbiddenCalls.CommandLine.Listing
import ForbiddenCalls.Config.Load
import ForbiddenCalls.Discovery.Basic
import ForbiddenCalls.Report.Excerpt
import ForbiddenCalls.Report.Json
import ForbiddenCalls.Syntax.Language

/-!
# Checking sources

The command `check` loads the configuration, puts the rules together, finds the
sources, analyzes them and prints the report.  The rules are those of the built-in
set, those of the configuration and those of the file that is asked for, in this
order, after what the configuration says of each of them.  The check is clean if
the run was not cut short and no finding is as severe as the configuration says.
-/

namespace ForbiddenCalls.CommandLine

namespace Check

/-- The id of the built-in rule set: the one that is asked for, else the one of the
configuration, else the standard one. -/
def ruleSetId (settings : Settings) (config : Config) : String :=
  (settings.ruleSet <|> config.ruleSet).getD RuleSet.standard.id

/-- The rules from all sources, in order, as the configuration adjusts them. -/
def assemble (config : Config) (builtIn own more : List Rule) : List Rule :=
  config.applyOverrides (builtIn ++ own ++ more)

/-- Whether a report lets the check pass. -/
def isClean (config : Config) (report : Report) : Bool :=
  !report.wasCancelled && !report.hasFindingsAt config.failThreshold

theorem isClean_iff {config : Config} {report : Report} :
    isClean config report = true ↔
      report.skipped = 0 ∧ ¬ report.hasFindingsAt config.failThreshold = true := by
  rw [isClean, Bool.and_eq_true, Bool.not_eq_true', Bool.not_eq_true', Bool.not_eq_true,
    ← Bool.not_eq_true, Report.wasCancelled_iff, Nat.not_lt, Nat.le_zero]

/-- The configuration and the rules in the file where they are found. -/
def load (fs : FileSystem) (file : Option FilePath) : Except FatalError (Config × List Rule) :=
  match file with
  | none => .ok ({}, [])
  | some path => do
    let config ← (Config.ofFile fs path).mapError fun e =>
      ⟨"Failed to load config: " ++ path.text, e.chain⟩
    let rules ← (loadRulesFrom fs path).mapError fun e =>
      ⟨"Invalid [[forbidden-call]] in " ++ path.text, e.chain⟩
    return (config, rules)

/-- The rules of the built-in set with a given id. -/
def builtInRules (id : String) : Except FatalError (List Rule) :=
  match RuleSet.ofId? id with
  | some s => Listing.rulesOf s
  | none => .error ⟨"Unknown rule set `" ++ id ++ "` (see `callgate list-rules`)", []⟩

/-- The rules in the file that is asked for. -/
def fileRules (fs : FileSystem) : Option FilePath → Except FatalError (List Rule)
  | none => .ok []
  | some path => (loadRulesFrom fs path).mapError fun e =>
    ⟨"Failed to load rules: " ++ path.text, e.chain⟩

/-- The paths that are checked. -/
def pathsOf (settings : Settings) (project : FilePath) (config : Config) : List FilePath :=
  if settings.paths.isEmpty then [project.join config.analyzer.root] else settings.paths

/-- Finds the sources. -/
def discover (fs : FileSystem) (extensions : List String) (settings : Settings)
    (config : Config) (paths : List FilePath) : Except FatalError Discovered := do
  let base : Discovery := { extensions, versionControl := config.analyzer.respectGitignore }
  let d ← (base.addExcludes (config.analyzer.exclude ++ settings.exclude)).mapError fun e =>
    ⟨"Invalid exclude pattern", e.diagnostic.message :: e.cause?.toList⟩
  (d.collect fs paths).mapError fun e =>
    ⟨"Failed to collect source files", e.diagnostic.message :: e.cause?.toList⟩

/-- What a check has found out. -/
structure Checked where
  config : Config
  registry : Registry
  report : Report

/-- Checks sources with the given languages, in a run that may be cancelled. -/
def runWith (fs : FileSystem) (env : List (String × String)) (languages : List Language)
    (settings : Settings) (cancelled : Bool) (interrupt : Interrupt) :
    Except FatalError Checked := do
  let project := Config.projectDir fs settings.paths
  let (config, own) ← load fs (Config.locate? fs env project settings.config)
  let builtIn ← builtInRules (ruleSetId settings config)
  let more ← fileRules fs settings.rulesFile
  let analyzer ← (Analyzer.build .empty (assemble config builtIn own more)
    [Language.adapter languages] config.analyzer.maxFileBytes).mapError fun e =>
      ⟨"Failed to build analyzer", [e.diagnostic.message]⟩
  let found ← discover fs analyzer.extensions settings config (pathsOf settings project config)
  let units := found.files.map (SourceUnit.ofPath fs)
  let report := (analyzer.analyzeWith units cancelled interrupt).recordFailures found.unreadable
  return ⟨config, analyzer.registry, report⟩

/-- Checks sources in a run that nothing cancels. -/
def run (fs : FileSystem) (env : List (String × String)) (languages : List Language)
    (settings : Settings) : Except FatalError Checked :=
  runWith fs env languages settings false .never

/-! ## Printing -/

/-- The line for a number of findings, in the colour of the worst of them. -/
def summaryLine (r : Report) : String :=
  coloured (if 0 < r.count .error then 31 else if 0 < r.count .warning then 33 else 32)
    r.summary ++ "\n"

/-- The lines for the files that failed, and the summary. -/
def closing (r : Report) : String :=
  String.join (r.failures.map fun f => f.text ++ "\n") ++ summaryLine r

/-- The help for a finding: the description of its rule, if there is one. -/
def help? (registry : Registry) (f : Finding) : Option String :=
  match registry.get? f.ruleId with
  | some rule => if rule.description = "" then none else some rule.description
  | none => none

/-- A finding in its source, or in one line if the source cannot be read. -/
def shown (fs : FileSystem) (registry : Registry) (f : Finding) : String :=
  match fs.readText f.location.file with
  | .ok source =>
    String.join ((f.excerpt source (help? registry f)).map (· ++ "\n")) ++ "\n"
  | .error _ => f.text ++ "\n"

/-- What is printed, on the standard output and beside it. -/
def printed (fs : FileSystem) (format : Format) (c : Checked) : String × String :=
  match format with
  | .text => (String.join (c.report.findings.map fun f => f.text ++ "\n"), closing c.report)
  | .json => (c.report.toJson.pretty 0 ++ "\n", "")
  | .pretty => (String.join (c.report.findings.map (shown fs c.registry)), closing c.report)

end Check

end ForbiddenCalls.CommandLine
