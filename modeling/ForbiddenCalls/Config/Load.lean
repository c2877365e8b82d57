import ForbiddenCalls.Config.FromToml
import ForbiddenCalls.FileSystem.Resolve
import ForbiddenCalls.Rule.FromToml

/-!
# Finding and loading a configuration

A configuration is taken from the file that is asked for; else from the first of
`projectNames` in the project's directory; else from `config.toml` in the user's
directory for configurations; else the built-in settings hold.  The same file may
define rules.
-/

namespace ForbiddenCalls

/-- Why a file with settings or rules cannot be used. -/
inductive ConfigError where
  | unreadable (path : FilePath) (reason : AccessError)
  | unusable (reason : String)
  deriving DecidableEq, Repr

/-- The message of an error, followed by those of its causes. -/
def ConfigError.chain : ConfigError → List String
  | unreadable path reason =>
    ["Failed to read config file " ++ path.text ++ ": " ++ reason.message, reason.message]
  | unusable reason => ["Failed to parse config: " ++ reason]

namespace Config

/-- The text of a file with settings or rules. -/
def readFile (fs : FileSystem) (path : FilePath) : Except ConfigError String :=
  (fs.readText path).mapError (.unreadable path)

/-- The settings in a file. -/
def ofFile (fs : FileSystem) (path : FilePath) : Except ConfigError Config := do
  match parse? (← readFile fs path) with
  | some config => .ok config
  | none => .error (.unusable LoadError.notToml.diagnostic.message)

end Config

/-- The rules that a file defines. -/
def loadRulesFrom (fs : FileSystem) (path : FilePath) : Except ConfigError (List Rule) := do
  (loadRules (← Config.readFile fs path)).mapError fun e =>
    .unusable (path.text ++ ": " ++ e.diagnostic.message)

namespace Config

/-- The directory whose configuration holds for some paths: the first path if it
leads to a directory, else the directory that it lies in. -/
def projectDir (fs : FileSystem) : List FilePath → FilePath
  | [] => ⟨"."⟩
  | p :: _ =>
    if fs.isDir p then p
    else
      match p.parent? with
      | some parent => if parent.text = "" then ⟨"."⟩ else parent
      | none => ⟨"."⟩

/-- The user's directory for configurations, given the environment.  An empty home
directory is no home directory. -/
def userDir? (env : List (String × String)) : Option FilePath :=
  match env.lookup "CALLGATE_CONFIG_DIR" with
  | some dir => some ⟨dir⟩
  | none =>
    match env.lookup "HOME" with
    | none => none
    | some home => if home = "" then none else some ((FilePath.mk home).join ⟨".callgate"⟩)

/-- The names of a project's configuration. -/
def projectNames : List FilePath := [⟨"callgate.toml"⟩, ⟨".callgate.toml"⟩]

/-- The file that the configuration is taken from. -/
def locate? (fs : FileSystem) (env : List (String × String)) (project : FilePath)
    (asked : Option FilePath) : Option FilePath :=
  match asked with
  | some path => some path
  | none =>
    let user := (userDir? env).map fun dir => dir.join ⟨"config.toml"⟩
    (projectNames.map project.join ++ user.toList).find? fs.isFile

end Config

end ForbiddenCalls
