import ForbiddenCalls.FilePath

/-!
# Command line arguments

The arguments name a command and give options, each by its long name or by its
letter.  The value of an option stands behind an equals sign, behind the letter,
or in the next argument; letters of options without values may share an argument.
An option that is not a list may be given once, and after `--` everything is a
path.

The arguments are taken from left to right, and the first one that cannot be
taken, or that asks for help or the version, ends the reading.
-/

namespace ForbiddenCalls.CommandLine

/-- How findings are printed. -/
inductive Format where
  | text
  | json
  | pretty
  deriving DecidableEq, Repr, Inhabited

namespace Format

/-- The name of a format. -/
def name : Format → String
  | text => "text"
  | json => "json"
  | pretty => "pretty"

/-- The format with a given name. -/
def ofName? : String → Option Format
  | "text" => some text
  | "json" => some json
  | "pretty" => some pretty
  | _ => none

@[simp] theorem ofName?_name (f : Format) : ofName? f.name = some f := by cases f <;> rfl

end Format

/-- The names of the commands. -/
inductive CommandName where
  | check
  | listRules
  | init
  | help
  deriving DecidableEq, Repr

/-- The command with a given name. -/
def CommandName.ofText? : String → Option CommandName
  | "check" => some check
  | "list-rules" => some listRules
  | "init" => some init
  | "help" => some help
  | _ => none

/-- The options. -/
inductive Opt where
  | verbose
  | config
  | help
  | version
  | ruleSet
  | rulesFile
  | format
  | exclude
  | jobs
  | force
  deriving DecidableEq, Repr

namespace Opt

/-- The long name of an option. -/
def name : Opt → String
  | verbose => "verbose"
  | config => "config"
  | help => "help"
  | version => "version"
  | ruleSet => "rule-set"
  | rulesFile => "rules-file"
  | format => "format"
  | exclude => "exclude"
  | jobs => "jobs"
  | force => "force"

/-- The letter of an option. -/
def letter? : Opt → Option Char
  | verbose => some 'v'
  | config => some 'c'
  | help => some 'h'
  | version => some 'V'
  | format => some 'f'
  | exclude => some 'e'
  | jobs => some 'j'
  | _ => none

/-- Whether an option has a value. -/
def hasValue : Opt → Bool
  | verbose | help | version | force => false
  | _ => true

/-- The options in front of a command. -/
def global : List Opt := [verbose, config, help, version]

/-- The options behind a command. -/
def ofCommand : CommandName → List Opt
  | .check => [verbose, config, help, ruleSet, rulesFile, format, exclude, jobs]
  | .listRules => [verbose, config, help, ruleSet]
  | .init => [verbose, config, help, force]
  | .help => []

end Opt

/-- What the arguments ask for, in full. -/
structure Settings where
  verbose : Bool := false
  config : Option FilePath := none
  paths : List FilePath := []
  ruleSet : Option String := none
  rulesFile : Option FilePath := none
  format : Format := .text
  exclude : List String := []
  jobs : Option Nat := none
  force : Bool := false
  deriving DecidableEq, Repr, Inhabited

/-- Why arguments cannot be taken. -/
inductive UsageError where
  | unknownCommand (text : String)
  | missingCommand
  | unexpected (text : String)
  | repeated (o : Opt)
  | missingValue (o : Opt)
  | surplusValue (o : Opt)
  | badValue (o : Opt) (text : String)
  | emptyPath
  deriving DecidableEq, Repr

/-- The wording of a usage error. -/
def UsageError.message : UsageError → String
  | unknownCommand text => "unrecognized subcommand '" ++ text ++ "'"
  | missingCommand => "a subcommand is required"
  | unexpected text => "unexpected argument '" ++ text ++ "' found"
  | repeated o => "the argument '--" ++ o.name ++ "' cannot be used multiple times"
  | missingValue o => "a value is required for '--" ++ o.name ++ "' but none was supplied"
  | surplusValue o => "unexpected value for '--" ++ o.name ++ "' found"
  | badValue o text => "invalid value '" ++ text ++ "' for '--" ++ o.name ++ "'"
  | emptyPath => "a value is required for '[PATHS]...' but none was supplied"

/-- Why the reading of arguments ends before their end. -/
inductive Stop where
  | help
  | version
  | usage (e : UsageError)
  deriving DecidableEq, Repr

/-- The largest number of jobs. -/
def maxJobs : Nat := 18446744073709551615

/-- Reads a number of jobs: digits, with a plus sign in front or without one. -/
def jobs? (text : String) : Option Nat :=
  let digits :=
    match text.toList with
    | '+' :: rest => rest
    | cs => cs
  if digits.isEmpty ∨ digits.any (fun c => !c.isDigit) then none
  else
    let n := digits.foldl (fun n c => 10 * n + (c.toNat - '0'.toNat)) 0
    if n ≤ maxJobs then some n else none

namespace Settings

/-- Takes an option without a value. -/
def switch (s : Settings) : Opt → Except Stop Settings
  | .verbose => .ok { s with verbose := true }
  | .force => .ok { s with force := true }
  | .help => .error .help
  | .version => .error .version
  | o => .error (.usage (.missingValue o))

/-- Takes the path that is the value of an option. -/
def pathOf (o : Opt) (value : String) : Except Stop FilePath :=
  if value = "" then .error (.usage (.missingValue o)) else .ok ⟨value⟩

/-- Takes an option with its value. -/
def assign (s : Settings) (o : Opt) (value : String) : Except Stop Settings :=
  match o with
  | .config => (pathOf o value).map fun p => { s with config := some p }
  | .rulesFile => (pathOf o value).map fun p => { s with rulesFile := some p }
  | .ruleSet => .ok { s with ruleSet := some value }
  | .exclude => .ok { s with exclude := s.exclude ++ [value] }
  | .format =>
    match Format.ofName? value with
    | some format => .ok { s with format }
    | none => .error (.usage (.badValue o value))
  | .jobs =>
    match jobs? value with
    | some n => .ok { s with jobs := some n }
    | none => .error (.usage (.badValue o value))
  | _ => .error (.usage (.surplusValue o))

end Settings

/-- How far the reading of arguments has come: the command, the options that were
given since the command, the option that waits for its value, whether all other
arguments are paths, and the command that help is asked for. -/
structure Progress where
  settings : Settings := {}
  command : Option CommandName := none
  seen : List Opt := []
  waiting : Option Opt := none
  onlyPaths : Bool := false
  topic : Option CommandName := none

namespace Progress

/-- The options that may be given now. -/
def options (p : Progress) : List Opt :=
  match p.command with
  | none => Opt.global
  | some c => Opt.ofCommand c

/-- Notes that an option was given. -/
def note (p : Progress) (o : Opt) : Except Stop Progress :=
  if o ≠ .exclude ∧ p.seen.contains o then .error (.usage (.repeated o))
  else .ok { p with seen := o :: p.seen }

/-- Takes an option without a value. -/
def takeSwitch (p : Progress) (o : Opt) : Except Stop Progress := do
  let p ← p.note o
  return { p with settings := ← p.settings.switch o }

/-- Takes an option with its value. -/
def takeValue (p : Progress) (o : Opt) (value : String) : Except Stop Progress := do
  let p ← p.note o
  return { p with settings := ← p.settings.assign o value, waiting := none }

/-- Takes an option that is given by its long name, with a value or without one. -/
def takeLong (p : Progress) (arg : String) (name : List Char) (value : Option (List Char)) :
    Except Stop Progress :=
  match p.options.find? fun o => o.name.toList == name, value with
  | none, _ => .error (.usage (.unexpected arg))
  | some o, some value =>
    if o.hasValue then p.takeValue o (String.ofList value)
    else .error (.usage (.surplusValue o))
  | some o, none => if o.hasValue then .ok { p with waiting := some o } else p.takeSwitch o

/-- Takes options that are given by their letters. -/
def takeLetters (p : Progress) (arg : String) : List Char → Except Stop Progress
  | [] => .ok p
  | c :: rest =>
    match p.options.find? fun o => o.letter? == some c with
    | none => .error (.usage (.unexpected arg))
    | some o =>
      if o.hasValue then
        match rest with
        | [] => .ok { p with waiting := some o }
        | '=' :: value => p.takeValue o (String.ofList value)
        | value => p.takeValue o (String.ofList value)
      else
        match p.takeSwitch o with
        | .ok p => p.takeLetters arg rest
        | .error e => .error e

/-- Takes an argument that is not an option. -/
def takePlain (p : Progress) (arg : String) : Except Stop Progress :=
  match p.command, p.onlyPaths with
  | none, false =>
    match CommandName.ofText? arg with
    | some c => .ok { p with command := some c, seen := [] }
    | none => .error (.usage (.unknownCommand arg))
  | some .check, _ =>
    if arg = "" then .error (.usage .emptyPath)
    else .ok { p with settings := { p.settings with paths := p.settings.paths ++ [⟨arg⟩] } }
  | _, _ => .error (.usage (.unexpected arg))

/-- Takes the command that help is asked for. -/
def takeTopic (p : Progress) (arg : String) : Except Stop Progress :=
  match p.topic, CommandName.ofText? arg with
  | none, some c => .ok { p with topic := some c }
  | _, _ => .error (.usage (.unknownCommand arg))

/-- Takes the next argument. -/
def take (p : Progress) (arg : String) : Except Stop Progress :=
  match p.waiting, arg.toList with
  | some o, '-' :: _ :: _ => .error (.usage (.missingValue o))
  | some o, _ => p.takeValue o arg
  | none, cs =>
    if p.command = some .help then p.takeTopic arg
    else if p.onlyPaths then p.takePlain arg
    else
      match cs with
      | ['-', '-'] => .ok { p with onlyPaths := true }
      | '-' :: '-' :: long =>
        let name := long.takeWhile (· ≠ '=')
        match long.dropWhile (· ≠ '=') with
        | [] => p.takeLong arg name none
        | _ :: value => p.takeLong arg name (some value)
      | '-' :: c :: letters => p.takeLetters arg (c :: letters)
      | _ => p.takePlain arg

end Progress

/-- A command with its settings. -/
structure Invocation where
  command : CommandName
  settings : Settings
  deriving Repr

/-- Reads the arguments. -/
def Invocation.parse (args : List String) : Except Stop Invocation := do
  let p ← args.foldlM Progress.take {}
  match p.waiting, p.command with
  | some o, _ => .error (.usage (.missingValue o))
  | none, none => .error (.usage .missingCommand)
  | none, some .help => .error .help
  | none, some command => .ok ⟨command, p.settings⟩

end ForbiddenCalls.CommandLine
