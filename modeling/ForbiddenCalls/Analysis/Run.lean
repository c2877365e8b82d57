import ForbiddenCalls.Analysis.Adapter
import ForbiddenCalls.Registry
import ForbiddenCalls.Report.Basic
import ForbiddenCalls.Report.FindingLog

/-!
# Running an analysis

An analyzer holds the active rules, the adapters and a limit on the size of a
file.  It takes the units one after the other.  A unit goes to the first adapter
that is responsible for it; it is measured, read and traversed, and each of these
steps may fail, which is recorded and does not stop the run.  The calls of a unit
are compared with the rules about their methods, and matches are reported to the
log of findings.

A run may be cancelled: before it starts, or while a unit is being traversed.
Then that unit is still finished, and all later ones are skipped.  What fires the
cancellation is not known to the analyzer, so a run is given an `Interrupt`,
which is asked after each traversal and is shown which adapters have traversed so
far.
-/

namespace ForbiddenCalls

/-- What a run works with. -/
structure Analyzer where
  registry : Registry
  adapters : List Adapter
  maxFileBytes : Nat

/-- Why there is no analyzer. -/
inductive StartupError where
  | duplicateRule (e : DuplicateRule)
  | noAdapter
  deriving DecidableEq, Repr

/-- The printed form of a startup error. -/
def StartupError.diagnostic : StartupError → Diagnostic
  | duplicateRule e => e.diagnostic
  | noAdapter => ⟨"no AST adapter registered", some "callgate::analyzer::no_adapter", none⟩

/-- Whether the run is cancelled during a traversal.  It is given the positions
of the adapters that have traversed units, the present one first. -/
abbrev Interrupt : Type := List Nat → Bool

/-- Nothing cancels the run. -/
def Interrupt.never : Interrupt := fun _ => false

namespace Analyzer

/-- Registers the rules on top of a registry.  A rule id that occurs twice is
reported before a missing adapter. -/
def build (registry : Registry) (rules : List Rule) (adapters : List Adapter)
    (maxFileBytes : Nat) : Except StartupError Analyzer :=
  match registry.registerAll rules with
  | (_, some e) => .error (.duplicateRule e)
  | (registry, none) =>
    if adapters.isEmpty then .error .noAdapter else .ok ⟨registry, adapters, maxFileBytes⟩

/-- The extensions of all adapters, sorted and without repetition. -/
def extensions (a : Analyzer) : List String :=
  (NameSet.ofList (a.adapters.flatMap Adapter.extensions)).toList

/-! ## One unit -/

/-- The failure of a unit for a parse error. -/
def parseFailure (u : SourceUnit) (e : ParseError) : Failure :=
  ⟨u.path, e.position?.map fun p => { file := u.path, line := p.1, column := p.2 }, e.message⟩

/-- The failure of a unit that cannot be measured or read. -/
def unreadable (u : SourceUnit) (reason : String) : Failure :=
  ⟨u.path, none, "unreadable: " ++ reason⟩

/-- What comes of a unit: the position of the adapter that traversed it, if it
got that far, and its calls or the reason why there are none. -/
structure Examination where
  traversal : Option Nat
  outcome : Except Failure (List CallSite)

/-- The first adapter that is responsible for a unit, with its position. -/
def adapterFor? (a : Analyzer) (u : SourceUnit) : Option (Adapter × Nat) :=
  a.adapters.zipIdx.find? fun p => p.1.handles u

/-- Examines a unit. -/
def examine (a : Analyzer) (u : SourceUnit) : Examination :=
  match a.adapterFor? u with
  | none => ⟨none, .error (parseFailure u (.unsupported u.extension))⟩
  | some (adapter, position) =>
    match u.size with
    | .error reason => ⟨none, .error (unreadable u reason)⟩
    | .ok size =>
      if a.maxFileBytes < size then
        ⟨none, .error (parseFailure u (.tooLarge size a.maxFileBytes))⟩
      else
        match u.text with
        | .error reason => ⟨none, .error (unreadable u reason)⟩
        | .ok text => ⟨some position, (adapter.calls u text).mapError (parseFailure u)⟩

/-- The rules that a call matches, in the order of registration. -/
def matchingRules (a : Analyzer) (c : CallSite) : List Rule :=
  (a.registry.candidates c.method).filter fun r => r.isMatch c

/-- The matches of a list of calls, in the order in which they are reported. -/
def matchesOf (a : Analyzer) (calls : List CallSite) : List (CallSite × Rule) :=
  calls.flatMap fun c => (a.matchingRules c).map fun r => (c, r)

/-! ## All units -/

/-- The state of a run. -/
structure RunState where
  cancelled : Bool
  traversals : List Nat := []
  log : FindingLog := .empty
  failures : Array Failure := #[]
  analyzed : Nat := 0
  skipped : Nat := 0

/-- Records that an adapter has traversed a unit, which may cancel the run. -/
def RunState.afterTraversal (interrupt : Interrupt) (s : RunState) : Option Nat → RunState
  | none => s
  | some position =>
    let traversals := position :: s.traversals
    { s with traversals, cancelled := s.cancelled || interrupt traversals }

/-- Takes the next unit. -/
def step (a : Analyzer) (interrupt : Interrupt) (s : RunState) (u : SourceUnit) : RunState :=
  if s.cancelled then { s with skipped := s.skipped + 1 }
  else
    let e := a.examine u
    let s := s.afterTraversal interrupt e.traversal
    match e.outcome with
    | .error failure => { s with failures := s.failures.push failure }
    | .ok calls =>
      { s with
        log := s.log.reportAll (a.matchesOf calls)
        analyzed := s.analyzed + 1 }

/-- The report at the end of a run. -/
def RunState.report (s : RunState) : Report where
  findings := s.log.results
  failures := Failure.sorted s.failures.toList
  analyzed := s.analyzed
  skipped := s.skipped

/-- Analyzes units until the run is cancelled. -/
def analyzeWith (a : Analyzer) (units : List SourceUnit) (cancelled : Bool)
    (interrupt : Interrupt) : Report :=
  (units.foldl (a.step interrupt) { cancelled }).report

/-- Analyzes units in a run that nothing cancels. -/
def analyze (a : Analyzer) (units : List SourceUnit) : Report :=
  a.analyzeWith units false .never

end Analyzer

end ForbiddenCalls
