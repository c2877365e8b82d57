import ForbiddenCalls.Config.Basic
import ForbiddenCalls.Toml.Document

/-!
# Reading a configuration

A configuration is read from a TOML document.  Every setting may be left out, and
keys that mean nothing here are ignored: the definitions of rules may stand in the
same document.  A setting that has the wrong type makes the document unusable.
-/

namespace ForbiddenCalls

open Toml (Value)

/-- Reads a setting that may be left out. -/
def readSetting {α : Type} (read : Value → Option α) : Option Value → Option (Option α)
  | none => some none
  | some v => (read v).map some

/-- Reads a severity by its name. -/
def Severity.ofToml? (v : Value) : Option Severity := v.choice?.bind ofName?

/-- Reads how sources are found and read. -/
def AnalyzerConfig.ofToml? (v : Value) : Option AnalyzerConfig :=
  match v.fields? ["root", "exclude", "respect_gitignore", "parallelism", "max_file_bytes"] with
  | some [root, exclude, respectGitignore, parallelism, maxFileBytes] => do
    let standard : AnalyzerConfig := {}
    let root ← readSetting Value.string? root
    let exclude ← readSetting Value.strings? exclude
    let respectGitignore ← readSetting Value.bool? respectGitignore
    let parallelism ← readSetting Value.nat? parallelism
    let maxFileBytes ← readSetting Value.nat? maxFileBytes
    some {
      root := (root.map FilePath.mk).getD standard.root
      exclude := exclude.getD standard.exclude
      respectGitignore := respectGitignore.getD standard.respectGitignore
      parallelism
      maxFileBytes := maxFileBytes.getD standard.maxFileBytes }
  | _ => none

/-- Reads what is said about one rule. -/
def RuleConfig.ofToml? (v : Value) : Option RuleConfig :=
  match v.fields? ["enabled", "severity"] with
  | some [enabled, severity] => do
    let enabled ← readSetting Value.bool? enabled
    let severity ← readSetting Severity.ofToml? severity
    some ⟨enabled, severity⟩
  | _ => none

namespace Config

/-- Reads what is said about each rule. -/
def rulesOfToml? (v : Value) : Option (List (String × RuleConfig)) :=
  v.entries?.bind fun es =>
    es.mapM fun e => (RuleConfig.ofToml? e.2).map fun r => (e.1, r)

/-- Reads a configuration from the value of a document. -/
def ofToml? (v : Value) : Option Config :=
  match v.fields? ["rule_set", "fail_on", "analyzer", "rules"] with
  | some [ruleSet, failOn, analyzer, rules] => do
    let ruleSet ← readSetting Value.string? ruleSet
    let failOn ← readSetting Severity.ofToml? failOn
    let analyzer ← readSetting AnalyzerConfig.ofToml? analyzer
    let rules ← readSetting rulesOfToml? rules
    some ⟨ruleSet, failOn, analyzer.getD {}, rules.getD []⟩
  | _ => none

/-- Reads a configuration from the text of a document. -/
def parse? (text : String) : Option Config := (Toml.parse? text).bind ofToml?

end Config

end ForbiddenCalls
