import ForbiddenCalls.Discovery.IgnoreFile
import ForbiddenCalls.FileSystem.Resolve

/-!
# Walking a directory

A walk yields the entries below a directory that are not directories themselves,
each with its trail; a directory that cannot be listed is such an entry, too.
Hidden entries are included and links are not followed.  What the ignore files say
is left out: an ignored directory is not entered.

The ignore files of every directory on the way to an entry count, those above the
directory where the walk starts included.  They are of three kinds, and the first
kind that says anything about an entry decides; among the files of one kind, the
one in the innermost directory does.  The directory where the walk starts is
never ignored itself.

## How an ignore file sees an entry

A directory above the start of the walk knows an entry by its place in the tree.
A directory inside the walk knows it by the *spelling* of its path, which begins
with the spelling of the path where the walk starts; of that it takes away its own
spelling, where it finds it.
-/

namespace ForbiddenCalls

/-- How a directory with ignore files lies to a walk: above its start, at the end of
a trail, or inside, with a path as the walk spells it. -/
inductive IgnoreBase where
  | above (trail : Trail)
  | inside (path : FilePath)
  deriving DecidableEq, Repr

/-- The ignore files of a directory: the one for every search, and those for
version control, of which one is shared with others and one is local. -/
structure IgnoreLevel where
  base : IgnoreBase
  search : IgnoreFile
  shared : IgnoreFile
  localOnly : IgnoreFile

/-- The path from a directory to an entry below it. -/
def Trail.below (trail inner : Trail) : String :=
  "/".intercalate (inner.take (inner.length - trail.length)).reverse

namespace IgnoreBase

/-- A text without another one that it begins with. -/
def dropFront (front cs : List Char) : List Char :=
  if front.isPrefixOf cs then cs.drop front.length else cs

/-- The mark of the present directory in front of a path. -/
def hereSlash : List Char := ['.', '/']

/-- The spelling of a path as a directory sees it.  The directory has a spelling of
its own, which is taken away together with a slash after it.  Nothing is taken away
from a single name, nor by a directory that is spelled as the present one. -/
def spelledBelow (dir path : FilePath) : String :=
  let path := dropFront hereSlash (dropFront hereSlash path.text.toList)
  let dir := dropFront hereSlash dir.text.toList
  let apart := (FilePath.mk (String.ofList dir)).same ⟨"."⟩ || !path.contains '/' ||
    !dir.isPrefixOf path
  String.ofList (if apart then path else dropFront ['/'] (dropFront dir path))

/-- The path that the ignore files of a directory compare with their patterns, for an
entry with a trail and a path in the walk. -/
def view : IgnoreBase → Trail → FilePath → String
  | above dir, trail, _ => dir.below trail
  | inside dir, _, path => spelledBelow dir path

end IgnoreBase

/-- A walk: the tree, the path where the walk starts, with the trail of the directory
that it leads to, and whether the ignore files for version control count. -/
structure Walk where
  fs : FileSystem
  start : FilePath
  startTrail : Trail
  versionControl : Bool := true

namespace Walk

/-- The path of what lies at the end of a trail in the walk. -/
def pathOf (w : Walk) (trail : Trail) : FilePath :=
  if trail.length = w.startTrail.length then w.start
  else w.start.join ⟨w.startTrail.below trail⟩

/-! ## Ignore files -/

/-- The ignore file that a path leads to.  One that cannot be read says nothing. -/
def ignoreFile (fs : FileSystem) (path : FilePath) : IgnoreFile :=
  match fs.readBytes path with
  | .ok bytes => .ofBytes bytes
  | .error _ => []

/-- The first line of the file that a path leads to, if it is a text. -/
def firstLine? (fs : FileSystem) (path : FilePath) : Option String :=
  match fs.readBytes path with
  | .ok bytes => IgnoreFile.firstLine? bytes
  | .error _ => none

/-- The name of the directory for version control, and of the file that stands in for
it in a linked working tree. -/
def controlName : FilePath := ⟨".git"⟩

/-- The path of the local ignore file from a directory for version control. -/
def excludesName : FilePath := ⟨"info/exclude"⟩

/-- The path of the directory for version control that a linked working tree has of
its own, as the first line of its file tells it. -/
def ownDir? (line : String) : Option FilePath :=
  let front := "gitdir: ".toList
  if front.isPrefixOf line.toList then
    some ⟨String.ofList (line.toList.drop front.length)⟩
  else none

/-- The path of the file that tells which directory for version control is shared with
the main working tree. -/
def sharingFile (own : FilePath) : FilePath := own.join ⟨"commondir"⟩

/-- The path of the directory for version control that is shared with the main working
tree.  One that begins with a dot is told from the own directory. -/
def sharedDir? (fs : FileSystem) (own : FilePath) : Option FilePath :=
  (firstLine? fs (sharingFile own)).map fun line =>
    if line.toList.head? = some '.' then own.join ⟨line⟩ else ⟨line⟩

/-- The local ignore file for version control of a directory.  In a linked working
tree it is the one of the main working tree, and the paths to it are looked up from
the working directory. -/
def localFile (fs : FileSystem) (trail : Trail) : IgnoreFile :=
  let here := fs.standingAt trail
  if here.isFile controlName then
    match ((firstLine? here controlName).bind ownDir?).bind (sharedDir? fs) with
    | some dir => ignoreFile fs (dir.join excludesName)
    | none => []
  else ignoreFile here (controlName.join excludesName)

/-- The ignore files of a directory. -/
def level (w : Walk) (base : IgnoreBase) (trail : Trail) : IgnoreLevel where
  base
  search := ignoreFile (w.fs.standingAt trail) ⟨".ignore"⟩
  shared := if w.versionControl then ignoreFile (w.fs.standingAt trail) ⟨".gitignore"⟩ else []
  localOnly := if w.versionControl then localFile w.fs trail else []

/-- What the ignore files of the given directories, the innermost one first, say of
an entry with a trail and a path. -/
def verdict? (levels : List IgnoreLevel) (trail : Trail) (path : FilePath) (isDir : Bool) :
    Option IgnoreVerdict :=
  [IgnoreLevel.search, IgnoreLevel.shared, IgnoreLevel.localOnly].findSome? fun file =>
    levels.findSome? fun l => (file l).verdict? (l.base.view trail path) isDir

/-- Whether an entry is left out. -/
def ignores (w : Walk) (levels : List IgnoreLevel) (trail : Trail) (entry : Entry) : Bool :=
  verdict? levels trail (w.pathOf trail) entry.isDir == some .ignored

/-! ## Entries -/

mutual

/-- The entries at and below the end of a trail, given the directories above it, the
innermost one first. -/
def entriesIn (w : Walk) (levels : List IgnoreLevel) (trail : Trail) :
    Entry → List (Trail × Entry)
  | .dir entries =>
    w.entriesAmong (w.level (.inside (w.pathOf trail)) trail :: levels) trail entries
  | .file bytes => [(trail, .file bytes)]
  | .link target => [(trail, .link target)]
  | .barred reason => [(trail, .barred reason)]

/-- The entries at and below the given entries of a directory. -/
def entriesAmong (w : Walk) (levels : List IgnoreLevel) (trail : Trail) :
    List (String × Entry) → List (Trail × Entry)
  | [] => []
  | (name, entry) :: rest =>
    (if w.ignores levels (name :: trail) entry then []
      else w.entriesIn levels (name :: trail) entry) ++ w.entriesAmong levels trail rest

end

/-- The trails of the directories above an entry, the innermost one first. -/
def above : Trail → List Trail
  | [] => []
  | _ :: outer => outer :: above outer

/-- The entries below the directory where the walk starts. -/
def entries (w : Walk) : List (Trail × Entry) :=
  match w.fs.entryAt? w.startTrail with
  | some entry =>
    w.entriesIn ((above w.startTrail).map fun t => w.level (.above t) t) w.startTrail entry
  | none => []

/-- Whether an entry that was found at the end of a trail is a file or leads to one. -/
def leadsToFile (w : Walk) (trail : Trail) : Entry → Bool
  | .file _ => true
  | .link target => (w.fs.standingAt trail.tail).isFile ⟨target⟩
  | _ => false

end Walk

end ForbiddenCalls
