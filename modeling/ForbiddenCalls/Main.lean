import ForbiddenCalls.CommandLine.Run
import ForbiddenCalls.Syntax.Java.Grammar
import ForbiddenCalls.Syntax.Kotlin.Grammar

/-!
# The program

A run is a function on file trees, so the program reads the part of the file system
that the run can look at, runs, prints, and writes the file that the run may have
made.  The part that matters is what the arguments name, what the configuration names,
and the ignore files in the directories above.  Of the other files in a directory only
those are read whose bytes can matter.
-/

namespace ForbiddenCalls

open CommandLine

namespace Main

/-- The languages that are checked. -/
def languages : List Language :=
  [Java.language Java.grammar.tree, Kotlin.language Kotlin.grammar.tree]

/-- The files that can say what to leave out, as seen from a directory. -/
def ignoreFiles : List (List String) :=
  [[".gitignore"], [".ignore"], [".git", "info", "exclude"], [".git"]]

/-- Whether the bytes of a file with a given name matter. -/
def isRead (name : String) : Bool :=
  let extension := FilePath.dottedExtension ⟨name⟩
  (ignoreFiles.map (·.getLastD "")).contains name || name == "commondir" ||
    extension == ".toml" || languages.any fun l => l.extensions.contains extension

/-- The names that lead from the root to a path, as it is written. -/
def namesOf (cwd : List String) (p : FilePath) : List String :=
  p.pieces.foldl (fun names piece =>
    if piece = "" ∨ piece = "." then names
    else if piece = ".." then names.dropLast
    else names ++ [piece]) (if p.isAbsolute then [] else cwd)

/-- The path to which some names lead from the root. -/
def pathOf (names : List String) : String := "/" ++ "/".intercalate names

/-- A file as an entry, with its bytes if they matter. -/
def fileEntry (e : IO.FS.DirEntry) : IO Entry := do
  return .file (← if isRead e.fileName then IO.FS.readBinFile e.path else pure .empty)

/-- What a link stands for: a file like any other, or something that is not walked. -/
def linkEntry (e : IO.FS.DirEntry) : IO Entry := do
  try
    match (← e.path.metadata).type with
    | .dir => return .link (← IO.FS.realPath e.path).toString
    | _ => fileEntry e
  catch _ => return .link ""

/-- An entry of a directory with everything below it. -/
partial def entryOf (e : IO.FS.DirEntry) : IO (String × Entry) := do
  try
    match (← e.path.symlinkMetadata).type with
    | .dir => return (e.fileName, .dir (← (← e.path.readDir).toList.mapM entryOf))
    | .symlink => return (e.fileName, ← linkEntry e)
    | _ => return (e.fileName, ← fileEntry e)
  catch _ => return (e.fileName, .barred "Permission denied (os error 13)")

/-- Puts into a tree what some names lead to, unless nothing is there, or nothing but
a directory where only files matter. -/
def survey (onlyFiles : Bool) (root : Entry) (names : List String) : IO Entry := do
  try
    let real ← IO.FS.realPath (pathOf names)
    match (← real.metadata).type with
    | .dir =>
      if onlyFiles then return root
      let entries ← (← real.readDir).toList.mapM entryOf
      return Entry.insert (.dir entries) names root
    | _ => return Entry.insert (.file (← IO.FS.readBinFile real)) names root
  catch _ => return root

/-- The bytes of all files in a tree that stand in for a directory for version
control. -/
partial def controlFiles (e : Entry) : List ByteArray :=
  e.entries.flatMap fun (name, inner) =>
    match inner with
    | .file bytes => if name = Walk.controlName.text then [bytes] else []
    | _ => controlFiles inner

/-- Puts into a tree the files for version control that its linked working trees share
with their main ones. -/
def surveyShared (cwd : List String) (root : Entry) : IO Entry := do
  let own := (controlFiles root).filterMap fun bytes =>
    (IgnoreFile.firstLine? bytes).bind Walk.ownDir?
  let root ← (own.map (namesOf cwd ∘ Walk.sharingFile)).foldlM (survey true) root
  let shared := own.filterMap (Walk.sharedDir? { root, cwd := cwd.reverse })
  (shared.map fun dir => namesOf cwd (dir.join Walk.excludesName)).foldlM (survey true) root

/-- Puts into a tree what some paths lead to, and before that the ignore files in the
directories above. -/
def surveyAll (cwd : List String) (root : Entry) (paths : List FilePath) : IO Entry := do
  let targets := paths.map (namesOf cwd)
  let above := targets.flatMap fun names =>
    (List.range names.length).flatMap fun n => ignoreFiles.map (names.take n ++ ·)
  surveyShared cwd (← targets.foldlM (survey false) (← above.eraseDups.foldlM (survey true) root))

/-- The files that may hold the configuration for some settings. -/
def configFiles (env : List (String × String)) (settings : Settings) : List FilePath :=
  let dirs := settings.paths ++ settings.paths.filterMap FilePath.parent? ++ [⟨"."⟩]
  settings.config.toList ++ settings.rulesFile.toList ++
    ((Config.userDir? env).map fun dir => dir.join ⟨"config.toml"⟩).toList ++
    dirs.flatMap fun dir => Config.projectNames.map dir.join

/-- The paths that a check looks at, as far as the configuration can be read. -/
def checkedPaths (fs : FileSystem) (env : List (String × String)) (settings : Settings) :
    List FilePath :=
  let project := Config.projectDir fs settings.paths
  match Check.load fs (Config.locate? fs env project settings.config) with
  | .ok (config, _) => Check.pathsOf settings project config
  | .error _ => []

/-- The part of the file system that a run with some arguments looks at. -/
def fileSystem (cwd : List String) (env : List (String × String)) (args : List String) :
    IO FileSystem := do
  let start : FileSystem :=
    { root := Entry.insert (.dir []) cwd (.dir []), cwd := cwd.reverse }
  match Invocation.parse args with
  | .error _ => return start
  | .ok i =>
    let named ← surveyAll cwd start.root (i.settings.paths ++ configFiles env i.settings)
    if i.command != .check then return { start with root := named }
    let paths := checkedPaths { start with root := named } env i.settings
    let root ← surveyAll cwd named (paths ++ i.settings.paths ++ configFiles env i.settings)
    return { start with root }

end Main

end ForbiddenCalls

open ForbiddenCalls in
/-- Runs the program with the given arguments. -/
def main (args : List String) : IO UInt32 := do
  let env ← ["CALLGATE_CONFIG_DIR", "HOME"].filterMapM fun name => do
    return (← IO.getEnv name).map fun value => (name, value)
  let cwd := Main.namesOf [] ⟨(← IO.currentDir).toString⟩
  let fs ← Main.fileSystem cwd env args
  let outcome := CommandLine.run args env Main.languages fs
  IO.print outcome.stdout
  IO.eprint outcome.stderr
  let made := CommandLine.Starter.path
  match outcome.fs.readText made with
  | .ok text =>
    if (fs.readText made).toOption != some text then IO.FS.writeFile made.text text
  | .error _ => pure ()
  return outcome.code.toUInt32
