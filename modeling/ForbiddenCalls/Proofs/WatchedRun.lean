import ForbiddenCalls.Proofs.RuleDependence

/-!
# Runs that are watched

What a run does besides its report shows outside: it measures and reads files, and it
lets adapters traverse them, which may cancel a token.  `Analyzer.analyzeWith` is told
by an `Interrupt` when that happens and leaves no trace of the rest.  Here the same run
takes place in a world, which remembers what was asked of the units and which tokens
are cancelled, and which is still there when the run has ended.

* `Analyzer.examineIn`, `takeIn`, `runIn`: examining a unit, taking it if the token of
  the run is not cancelled, and taking all units in order.
* `run_examineIn`: an examination in a world comes to what `Analyzer.examine` says, and
  what it asks of the unit does not depend on the world.
* `Agrees.step`: `analyzeWith` and the run in a world keep step, if its interrupt is that
  of the world.
-/

namespace ForbiddenCalls

/-- A token, with which a run can be cancelled.  Its clones are the same token. -/
abbrev CancellationToken : Type := Nat

/-- What is asked of a unit: its size, its text, or a traversal by the adapter at a
position. -/
inductive Access where
  | measured (u : SourceUnit)
  | read (u : SourceUnit)
  | traversed (u : SourceUnit) (position : Nat)

/-- What a run leaves behind outside: the tokens that are cancelled, the positions of
the adapters that have traversed units, the last one first, and all that was asked of
units, in order. -/
structure World where
  cancelled : CancellationToken → Bool := fun _ => false
  traversals : List Nat := []
  accesses : List Access := []

/-- Which tokens the adapters cancel during a traversal.  They are given the positions
of the adapters that have traversed units, in this run or an earlier one, the present
one first.  The number of these tells which traversal it is, so that a token can be
cancelled in any of them. -/
abbrev Firing : Type := List Nat → CancellationToken → Bool

namespace World

/-- The world after something was asked of a unit. -/
def asked (w : World) (e : Access) : World := { w with accesses := w.accesses ++ [e] }

/-- The world after a traversal by the adapter at a position. -/
def traversed (w : World) (fires : Firing) (position : Nat) : World :=
  let traversals := position :: w.traversals
  { w with traversals, cancelled := fun t => w.cancelled t || fires traversals t }

/-- The world after some accesses, with a traversal among them or not. -/
def after (w : World) (fires : Firing) (accesses : List Access) (traversal : Option Nat) :
    World where
  cancelled t := w.cancelled t || traversal.any fun position => fires (position :: w.traversals) t
  traversals := traversal.toList ++ w.traversals
  accesses := w.accesses ++ accesses

/-- The interrupt of a run that begins in this world with a token. -/
def interrupt (w : World) (fires : Firing) (t : CancellationToken) : Interrupt :=
  fun traversals => fires (traversals ++ w.traversals) t

end World

/-! ## Asking -/

/-- Asks a unit for its size. -/
def SourceUnit.measureIn (u : SourceUnit) : StateM World (Except String Nat) := do
  modify fun w => w.asked (.measured u)
  return u.size

/-- Asks a unit for its text. -/
def SourceUnit.readIn (u : SourceUnit) : StateM World (Except String String) := do
  modify fun w => w.asked (.read u)
  return u.text

/-- Lets the adapter at a position traverse a unit. -/
def Adapter.callsIn (d : Adapter) (fires : Firing) (position : Nat) (u : SourceUnit)
    (text : String) : StateM World (Except ParseError (List CallSite)) := do
  modify fun w => (w.asked (.traversed u position)).traversed fires position
  return d.calls u text

namespace Analyzer

/-- Examines a unit. -/
def examineIn (a : Analyzer) (fires : Firing) (u : SourceUnit) :
    StateM World (Except Failure (List CallSite)) :=
  match a.adapterFor? u with
  | none => return .error (parseFailure u (.unsupported u.extension))
  | some (adapter, position) => do
    match ← u.measureIn with
    | .error reason => return .error (unreadable u reason)
    | .ok size =>
      if a.maxFileBytes < size then
        return .error (parseFailure u (.tooLarge size a.maxFileBytes))
      else
        match ← u.readIn with
        | .error reason => return .error (unreadable u reason)
        | .ok text =>
          return (← adapter.callsIn fires position u text).mapError (parseFailure u)

/-- Takes the next unit of a run with a token. -/
def takeIn (a : Analyzer) (t : CancellationToken) (fires : Firing) (u : SourceUnit) :
    StateM World Job := do
  if (← get).cancelled t then return .skipped
  else
    match ← a.examineIn fires u with
    | .error failure => return .failed failure
    | .ok calls => return .analyzed (a.matchesOf calls)

/-- Takes the units one after the other. -/
def takeAllIn (a : Analyzer) (t : CancellationToken) (fires : Firing)
    (units : List SourceUnit) : StateM World (List (SourceUnit × Job)) :=
  units.mapM fun u => Prod.mk u <$> a.takeIn t fires u

/-- A run over the units with a token. -/
def runIn (a : Analyzer) (t : CancellationToken) (fires : Firing) (units : List SourceUnit) :
    StateM World Pool := do
  let jobs ← a.takeAllIn t fires units
  return {
    cancelled := (← get).cancelled t
    jobs
    log := FindingLog.empty.reportAll (jobs.flatMap fun p => p.2.reported) }

variable {a : Analyzer} {t : CancellationToken} {fires : Firing} {u : SourceUnit}
  {units : List SourceUnit} {w w' w'' w₀ : World} {s : RunState}

/-! ## Examining -/

/-- What an examination asks of a unit. -/
def accessesOf (a : Analyzer) (u : SourceUnit) : List Access :=
  ((a.examineIn (fun _ _ => false) u).run {}).2.accesses

/-- The outcome and the traversal are those of `examine`, and what is asked of the unit
is some first part of measuring, reading and traversing. -/
theorem exists_run_examineIn (a : Analyzer) (u : SourceUnit) :
    ∃ accesses, (∃ position, accesses <+: [.measured u, .read u, .traversed u position]) ∧
      ∀ fires w, (a.examineIn fires u).run w =
        pure ((a.examine u).outcome, w.after fires accesses (a.examine u).traversal) := by
  unfold examineIn examine
  rcases a.adapterFor? u with _ | ⟨d, position⟩
  · refine ⟨[], ⟨0, List.nil_prefix⟩, fun fires w => ?_⟩
    simp [World.after]
  cases hsize : u.size with
  | error reason =>
    refine ⟨[.measured u], ⟨position, by simp⟩, fun fires w => ?_⟩
    simp [World.after, World.asked, SourceUnit.measureIn, hsize]
  | ok size =>
    by_cases hover : a.maxFileBytes < size
    · refine ⟨[.measured u], ⟨position, by simp⟩, fun fires w => ?_⟩
      simp [World.after, World.asked, SourceUnit.measureIn, hsize, hover]
    cases htext : u.text with
    | error reason =>
      refine ⟨[.measured u, .read u], ⟨position, by simp⟩, fun fires w => ?_⟩
      simp [World.after, World.asked, SourceUnit.measureIn, SourceUnit.readIn, hsize, hover, htext]
    | ok text =>
      refine ⟨[.measured u, .read u, .traversed u position], ⟨position, List.prefix_rfl⟩,
        fun fires w => ?_⟩
      simp [World.after, World.asked, World.traversed, SourceUnit.measureIn, SourceUnit.readIn,
        Adapter.callsIn, hsize, hover, htext]

theorem accessesOf_eq {accesses : List Access}
    (hrun : ∀ fires w, (a.examineIn fires u).run w =
      pure ((a.examine u).outcome, w.after fires accesses (a.examine u).traversal)) :
    a.accessesOf u = accesses := by
  rw [accessesOf, hrun]
  rfl

/-- **An examination in a world.** -/
theorem run_examineIn (a : Analyzer) (fires : Firing) (u : SourceUnit) (w : World) :
    (a.examineIn fires u).run w =
      pure ((a.examine u).outcome, w.after fires (a.accessesOf u) (a.examine u).traversal) := by
  obtain ⟨accesses, -, hrun⟩ := a.exists_run_examineIn u
  rw [hrun, accessesOf_eq hrun]

/-- An examination measures, reads and traverses its unit, in this order and each at most
once. -/
theorem exists_accessesOf_prefix (a : Analyzer) (u : SourceUnit) :
    ∃ position, a.accessesOf u <+: [.measured u, .read u, .traversed u position] := by
  obtain ⟨accesses, hprefix, hrun⟩ := a.exists_run_examineIn u
  rwa [accessesOf_eq hrun]

/-! ## Taking units -/

/-- A cancelled run skips the next unit. -/
theorem run_takeIn_of_cancelled (h : w.cancelled t = true) :
    (a.takeIn t fires u).run w = pure (.skipped, w) := by
  simp [takeIn, h]

/-- Any other run takes it. -/
theorem run_takeIn (h : w.cancelled t = false) :
    (a.takeIn t fires u).run w =
      pure ((Job.begun a u).close, w.after fires (a.accessesOf u) (a.examine u).traversal) := by
  cases houtcome : (a.examine u).outcome with
  | error failure => simp [takeIn, h, run_examineIn, houtcome, Job.begun, Job.close]
  | ok calls => simp [takeIn, h, run_examineIn, houtcome, Job.begun, Job.close]

/-- The world after a run over the units. -/
def worldAfter (a : Analyzer) (t : CancellationToken) (fires : Firing) (units : List SourceUnit)
    (w : World) : World :=
  ((a.takeAllIn t fires units).run w).2

theorem run_takeAllIn_nil : (a.takeAllIn t fires []).run w = pure ([], w) := rfl

theorem run_takeAllIn_cons {j : Job} {jobs : List (SourceUnit × Job)}
    (hu : (a.takeIn t fires u).run w = pure (j, w'))
    (hunits : (a.takeAllIn t fires units).run w' = pure (jobs, w'')) :
    (a.takeAllIn t fires (u :: units)).run w = pure ((u, j) :: jobs, w'') := by
  rw [takeAllIn] at hunits ⊢
  simp [hu, hunits]

theorem run_takeAllIn_of_cancelled (h : w.cancelled t = true) (units : List SourceUnit) :
    (a.takeAllIn t fires units).run w = pure (units.map fun u => (u, .skipped), w) := by
  induction units with
  | nil => exact run_takeAllIn_nil
  | cons u units ih => exact run_takeAllIn_cons (run_takeIn_of_cancelled h) ih

/-- The world after an uncancelled unit and those behind it. -/
theorem worldAfter_cons (h : w.cancelled t = false) :
    a.worldAfter t fires (u :: units) w =
      a.worldAfter t fires units (w.after fires (a.accessesOf u) (a.examine u).traversal) := by
  rw [worldAfter, run_takeAllIn_cons (run_takeIn h) rfl]
  rfl

theorem worldAfter_of_cancelled (h : w.cancelled t = true) (units : List SourceUnit) :
    a.worldAfter t fires units w = w := by
  rw [worldAfter, run_takeAllIn_of_cancelled h]
  rfl

/-! ## The run of the analyzer -/

/-- The state of a run agrees with a world that the run began in another one: the token
of the run is cancelled or not, and the traversals are those of the run on top of the
earlier ones. -/
structure Agrees (t : CancellationToken) (w₀ : World) (s : RunState) (w : World) : Prop where
  cancelled_eq : s.cancelled = w.cancelled t
  traversals_eq : w.traversals = s.traversals ++ w₀.traversals

/-- A run agrees with the world that it begins in. -/
theorem agrees_start (t : CancellationToken) (w : World) :
    Agrees t w { cancelled := w.cancelled t } w := ⟨rfl, rfl⟩

/-- **A step keeps the agreement.** -/
theorem Agrees.step (h : Agrees t w₀ s w) (hcancelled : w.cancelled t = false) (u : SourceUnit) :
    Agrees t w₀ (a.step (w₀.interrupt fires t) s u)
      (w.after fires (a.accessesOf u) (a.examine u).traversal) := by
  obtain ⟨hflag, htraversals⟩ := h
  have hcourse : (a.step (w₀.interrupt fires t) s u).course =
      (s.afterTraversal (w₀.interrupt fires t) (a.examine u).traversal).course :=
    course_step (hflag.trans hcancelled)
  obtain ⟨hcancelled', hrest⟩ := Prod.mk.inj hcourse
  obtain ⟨htraversals', -⟩ := Prod.mk.inj hrest
  constructor
  · rw [hcancelled']
    cases (a.examine u).traversal with
    | none => simp [RunState.afterTraversal, World.after, hflag]
    | some position =>
      simp [RunState.afterTraversal, World.after, World.interrupt, hflag, htraversals]
  · rw [htraversals']
    cases (a.examine u).traversal with
    | none => simp [RunState.afterTraversal, World.after, htraversals]
    | some position => simp [RunState.afterTraversal, World.after, htraversals]

end Analyzer

end ForbiddenCalls
