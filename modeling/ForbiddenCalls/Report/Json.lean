import ForbiddenCalls.Json.Value
import ForbiddenCalls.Report.Basic

/-!
# Reports as JSON

The written form of a report and its reader.  The writer leaves out the location
of a failure that has none and always writes the number of skipped files; the
reader also takes a location that is `null`, a missing number of skipped files,
and members that it does not know.
-/

namespace ForbiddenCalls

/-- A severity as a JSON value. -/
def Severity.toJson (s : Severity) : Json := .string s.name

/-- Reads a severity: its name, or an object with that name and nothing in it. -/
def Severity.ofJson? : Json → Option Severity
  | .string name => ofName? name
  | .object [(name, .null)] => ofName? name
  | _ => none

/-- A location as a JSON value. -/
def Location.toJson (l : Location) : Json :=
  .object [("file", .string l.file.text), ("line", .nat l.line), ("column", .nat l.column),
    ("offset", .nat l.offset), ("length", .nat l.length)]

/-- Reads a location. -/
def Location.ofJson? (j : Json) : Option Location :=
  match j.fields? ["file", "line", "column", "offset", "length"] with
  | some [some file, some line, some column, some offset, some length] =>
    match file.string?, line.word?, column.word?, offset.word?, length.word? with
    | some file, some line, some column, some offset, some length =>
      some ⟨⟨file⟩, line, column, offset, length⟩
    | _, _, _, _, _ => none
  | _ => none

/-- A finding as a JSON value. -/
def Finding.toJson (f : Finding) : Json :=
  .object [("rule_id", .string f.ruleId), ("severity", f.severity.toJson),
    ("location", f.location.toJson), ("message", .string f.message)]

/-- Reads a finding. -/
def Finding.ofJson? (j : Json) : Option Finding :=
  match j.fields? ["rule_id", "severity", "location", "message"] with
  | some [some ruleId, some severity, some location, some message] =>
    match ruleId.string?, Severity.ofJson? severity, Location.ofJson? location,
        message.string? with
    | some ruleId, some severity, some location, some message =>
      some ⟨ruleId, severity, location, message⟩
    | _, _, _, _ => none
  | _ => none

/-- A failure as a JSON value. -/
def Failure.toJson (f : Failure) : Json :=
  .object <|
    [("file", .string f.file.text)] ++
      (f.location.map fun l => ("location", l.toJson)).toList ++
      [("message", .string f.message)]

/-- Reads an optional location. -/
def Failure.locationOfJson? : Option Json → Option (Option Location)
  | none => some none
  | some .null => some none
  | some j => (Location.ofJson? j).map some

/-- Reads a failure. -/
def Failure.ofJson? (j : Json) : Option Failure :=
  match j.fields? ["file", "location", "message"] with
  | some [some file, location, some message] =>
    match file.string?, locationOfJson? location, message.string? with
    | some file, some location, some message => some ⟨⟨file⟩, location, message⟩
    | _, _, _ => none
  | _ => none

namespace Report

/-- A report as a JSON value. -/
def toJson (r : Report) : Json :=
  .object [("findings", .array (r.findings.map Finding.toJson)),
    ("parse_failures", .array (r.failures.map Failure.toJson)),
    ("units_analyzed", .nat r.analyzed), ("units_skipped", .nat r.skipped)]

/-- Reads the number of skipped files, which is zero where it is missing. -/
def skippedOfJson? : Option Json → Option Nat
  | none => some 0
  | some j => j.word?

/-- Reads a report. -/
def ofJson? (j : Json) : Option Report :=
  match j.fields? ["findings", "parse_failures", "units_analyzed", "units_skipped"] with
  | some [some findings, some failures, some analyzed, skipped] =>
    match findings.elements?.bind (·.mapM Finding.ofJson?),
        failures.elements?.bind (·.mapM Failure.ofJson?), analyzed.word?,
        skippedOfJson? skipped with
    | some findings, some failures, some analyzed, some skipped =>
      some ⟨findings, failures, analyzed, skipped⟩
    | _, _, _, _ => none
  | _ => none

end Report

end ForbiddenCalls
