import ForbiddenCalls.Diagnostic
import ForbiddenCalls.Discovery.Walk
import ForbiddenCalls.Pattern.Exclude
import ForbiddenCalls.Report.Finding

/-!
# Finding source files

The paths that are to be analyzed lead to files and directories.  A file is taken
whatever it is called.  A directory is walked, and of the files below it those
with one of the given extensions are taken, unless an exclude pattern accepts the
path below the directory, with or without a slash in front.

A file that was found below a directory is named by the path of the directory
joined with the path below it.  Of several spellings of one path the first one is
kept, and the files are sorted by their paths.  A directory that cannot be listed
is recorded as a failure and does not stop the search.
-/

namespace ForbiddenCalls

open Pattern (ExcludePattern ExcludeError)

/-- Why no files were collected. -/
inductive DiscoveryError where
  | missing (path : FilePath)
  | badPattern (e : ExcludeError)
  deriving DecidableEq, Repr

/-- The printed form of the error. -/
def DiscoveryError.diagnostic : DiscoveryError → Diagnostic
  | missing path => ⟨"path does not exist: " ++ path.text, some "callgate::discovery::missing", none⟩
  | badPattern e => ⟨"Invalid glob pattern: " ++ e.message, some "callgate::discovery::glob", none⟩

/-- What an error is due to. -/
def DiscoveryError.cause? : DiscoveryError → Option String
  | missing _ => none
  | badPattern e => some e.message

/-- What was found: the paths of files, and the directories that could not be
listed. -/
structure Discovered where
  files : List FilePath := []
  unreadable : List Failure := []
  deriving DecidableEq, Repr, Inhabited

/-- Which files below a directory are taken. -/
structure Discovery where
  extensions : List String
  exclude : List ExcludePattern := []
  versionControl : Bool := true

namespace Discovery

/-- Adds exclude patterns.  The first text that is not a pattern is reported. -/
def addExcludes (d : Discovery) (patterns : List String) : Except DiscoveryError Discovery :=
  match patterns.mapM ExcludePattern.parse with
  | .ok more => .ok { d with exclude := d.exclude ++ more }
  | .error e => .error (.badPattern e)

/-- Whether a path has one of the extensions. -/
def wants (d : Discovery) (p : FilePath) : Bool :=
  p.dottedExtension != "" && d.extensions.contains p.dottedExtension

/-- Whether an exclude pattern accepts a relative path. -/
def excludes (d : Discovery) (relative : String) : Bool :=
  d.exclude.any fun p => p.accepts relative || p.accepts ("/" ++ relative)

/-- Whether an entry that was found in a walk is taken. -/
def takes (d : Discovery) (walk : Walk) (trail : Trail) (entry : Entry) : Bool :=
  walk.leadsToFile trail entry && d.wants (walk.pathOf trail) &&
    !d.excludes (walk.startTrail.below trail)

/-- The failure for an entry that cannot be listed. -/
def unreadable? (walk : Walk) : Trail × Entry → Option Failure
  | (trail, .barred reason) =>
    let path := walk.pathOf trail
    some ⟨path, none, "unreadable: " ++ path.text ++ ": " ++ reason⟩
  | _ => none

/-- What is found in a walk. -/
def among (d : Discovery) (walk : Walk) : Discovered :=
  let entries := walk.entries
  { files := (entries.filter fun e => d.takes walk e.1 e.2).map fun e => walk.pathOf e.1
    unreadable := entries.filterMap (unreadable? walk) }

/-- What is found for a path. -/
def look (d : Discovery) (fs : FileSystem) (p : FilePath) : Except DiscoveryError Discovered :=
  if fs.isFile p then .ok { files := [p] }
  else
    match fs.dirTrail? p with
    | some trail => .ok (d.among ⟨fs, p, trail, d.versionControl⟩)
    | none => .error (.missing p)

/-- Keeps the first one of neighbouring spellings of one path. -/
def firstSpellings : List FilePath → List FilePath
  | [] => []
  | [p] => [p]
  | p :: q :: rest =>
    if p.same q then firstSpellings (p :: rest) else p :: firstSpellings (q :: rest)
  termination_by ps => ps.length

/-- The paths sorted, each in its first spelling. -/
def sortedPaths (ps : List FilePath) : List FilePath :=
  firstSpellings (ps.mergeSort fun p q => (p.order q).isLE)

/-- What is found for a list of paths.  The first path that leads nowhere is
reported. -/
def collect (d : Discovery) (fs : FileSystem) (paths : List FilePath) :
    Except DiscoveryError Discovered := do
  let found ← paths.mapM (d.look fs)
  return {
    files := sortedPaths (found.flatMap Discovered.files)
    unreadable := Failure.sorted (found.flatMap Discovered.unreadable) }

end Discovery

end ForbiddenCalls
