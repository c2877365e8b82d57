import ForbiddenCalls.FilePath
import ForbiddenCalls.FileSystem.Entry

/-!
# Looking up paths

A path is looked up from the working directory, or from the root of the tree when
it begins with a slash.  It is taken segment by segment.  Every segment asks for
a directory to stand in, the empty one and `.` included, so a slash at the end of
the path of a file makes it unusable; `..` goes up in the tree, whatever way led
down; and a link is replaced by the segments of its target, at most
`maxLinks` times.

`resolve` gives the trail that a path stands for.  The last name of that trail may
be unused, which is what a new file needs; `locate` asks for an entry there.
-/

namespace ForbiddenCalls

/-- A file tree with a working directory. -/
structure FileSystem where
  root : Entry
  cwd : Trail := []

instance : Inhabited FileSystem := ⟨{ root := .dir [] }⟩

namespace FileSystem

/-- The tree with another working directory. -/
def standingAt (fs : FileSystem) (trail : Trail) : FileSystem := { fs with cwd := trail }

/-- The number of links that are followed for one path. -/
def maxLinks : Nat := 40

/-- The entry at the end of a trail. -/
def entryAt? (fs : FileSystem) (trail : Trail) : Option Entry :=
  fs.root.descend? trail.reverse

/-- Where a path starts that is looked up from a directory. -/
def startOf (trail : Trail) (p : FilePath) : Trail :=
  if p.isAbsolute then [] else trail

/-- The trail that the given segments lead to. -/
def follow (fs : FileSystem) (links : Nat) (trail : Trail) (segments : List String) :
    Except AccessError Trail :=
  match segments with
  | [] => .ok trail
  | segment :: rest =>
    match fs.entryAt? trail with
    | none => .error .notFound
    | some entry =>
      if entry.isDir then
        match Component.ofSegment? segment with
        | none => fs.follow links trail rest
        | some .up => fs.follow links trail.tail rest
        | some _ =>
          match entry.child? segment with
          | some (.link target) =>
            if _h : links = 0 then .error .tooManyLinks
            else fs.follow (links - 1) (startOf trail ⟨target⟩) (FilePath.pieces ⟨target⟩ ++ rest)
          | _ => fs.follow links (segment :: trail) rest
      else .error .notDirectory
  termination_by (links, segments.length)

/-- The trail that a path stands for; its last name may be unused. -/
def resolve (fs : FileSystem) (p : FilePath) : Except AccessError Trail :=
  if p.text = "" then .error .notFound
  else fs.follow maxLinks (startOf fs.cwd p) p.pieces

/-- The trail that a path stands for, with the entry at its end. -/
def locate (fs : FileSystem) (p : FilePath) : Except AccessError (Trail × Entry) := do
  let trail ← fs.resolve p
  match fs.entryAt? trail with
  | some entry => .ok (trail, entry)
  | none => .error .notFound

/-- Whether a path leads to an entry. -/
def present (fs : FileSystem) (p : FilePath) : Bool := (fs.locate p).toBool

/-- Whether a path leads to a file. -/
def isFile (fs : FileSystem) (p : FilePath) : Bool :=
  match fs.locate p with
  | .ok (_, .file _) => true
  | _ => false

/-- The trail of the directory that a path leads to. -/
def dirTrail? (fs : FileSystem) (p : FilePath) : Option Trail :=
  match fs.locate p with
  | .ok (trail, entry) => if entry.isDir then some trail else none
  | .error _ => none

/-- Whether a path leads to a directory. -/
def isDir (fs : FileSystem) (p : FilePath) : Bool := (fs.dirTrail? p).isSome

/-- The bytes of the file that a path leads to. -/
def readBytes (fs : FileSystem) (p : FilePath) : Except AccessError ByteArray := do
  match ← fs.locate p with
  | (_, .file bytes) => .ok bytes
  | _ => .error .isDirectory

/-- The text of the file that a path leads to. -/
def readText (fs : FileSystem) (p : FilePath) : Except AccessError String := do
  match String.fromUTF8? (← fs.readBytes p) with
  | some text => .ok text
  | none => .error .notUtf8

/-- The tree with a text in the file that a path leads to.  The file is made if
the directory for it is there. -/
def writeText (fs : FileSystem) (p : FilePath) (text : String) : Except AccessError FileSystem := do
  let trail ← fs.resolve p
  match fs.entryAt? trail with
  | some entry =>
    if entry.isDir then .error .isDirectory
    else .ok { fs with root := .insert (.file text.toUTF8) trail.reverse fs.root }
  | none => .ok { fs with root := .insert (.file text.toUTF8) trail.reverse fs.root }

end FileSystem

end ForbiddenCalls
