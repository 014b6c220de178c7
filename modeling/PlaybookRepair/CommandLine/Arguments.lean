import PlaybookRepair.Number.Numeral
import PlaybookRepair.Path

/-!
# Command-line arguments

The arguments are switches, settings with a value, and paths. A setting has its value after an equals
sign or in the next argument, which must not look like a switch or a setting itself; single-letter
names can be joined, the value of a setting then being the rest of the argument. After two dashes all
arguments are paths. No switch or setting may be repeated, except the switch that asks for more talk.
-/

namespace PlaybookRepair.CommandLine

/-- What the command line asks for. -/
structure Invocation where
  paths : List Path := []
  dryRun : Bool := false
  bestEffort : Bool := false
  noBackup : Bool := false
  config : Option Path := none
  jobs : Option Nat := none
  /-- Whether a document is read from the standard input. -/
  fromInput : Bool := false
  /-- The path that tells the kind of a document from the standard input. -/
  pathHint : Option Text := none
  /-- How often more talk is asked for. -/
  verbosity : Nat := 0
deriving Repr, DecidableEq

/-- What keeps a command line from being carried out. -/
inductive UsageError
  | unknownArgument (argument : Text)
  | unexpectedValue (argument : Text)
  | missingValue (name : Text)
  | emptyPath
  | badCount (value : Text)
  | repeated (name : Text)
  | conflict (first second : Text)
  /-- Help is asked for. -/
  | help
deriving Repr, DecidableEq

/-- An argument without a value. -/
inductive Switch
  | dryRun
  | bestEffort
  | noBackup
  | fromInput
  | verbose
  | help
deriving Repr, DecidableEq

namespace Switch

/-- The name of a switch. -/
def name : Switch → String
  | dryRun => "dry-run"
  | bestEffort => "best-effort"
  | noBackup => "no-backup"
  | fromInput => "stdin"
  | verbose => "verbose"
  | help => "help"

/-- All switches. -/
def all : List Switch := [dryRun, bestEffort, noBackup, fromInput, verbose, help]

/-- The switch with a name. -/
def ofName? (text : Text) : Option Switch := all.find? fun switch => switch.name.toList = text

/-- The switch with a single-letter name. -/
def ofLetter? (letter : Char) : Option Switch :=
  if letter = 'v' then some verbose else if letter = 'h' then some help else none

end Switch

/-- An argument with a value. -/
inductive Setting
  | config
  | jobs
  | pathHint
deriving Repr, DecidableEq

namespace Setting

/-- The name of a setting. -/
def name : Setting → String
  | config => "config"
  | jobs => "jobs"
  | pathHint => "path-hint"

/-- All settings. -/
def all : List Setting := [config, jobs, pathHint]

/-- The setting with a name. -/
def ofName? (text : Text) : Option Setting := all.find? fun setting => setting.name.toList = text

/-- The setting with a single-letter name. -/
def ofLetter? (letter : Char) : Option Setting := if letter = 'j' then some jobs else none

end Setting

/-! ## Cutting the arguments -/

/-- What an argument says. -/
inductive Item
  | switch (switch : Switch)
  | setting (setting : Setting) (value : Text)
  | path (path : Path)
  /-- The argument says nothing. -/
  | broken (error : UsageError)
deriving Repr, DecidableEq

/-- Whether an argument looks like a switch or a setting. A single dash does not. -/
def looksLikeOption (argument : Text) : Bool := argument.head? = some '-' && argument ≠ ['-']

/-- What joined single-letter names say: the switches and, if the last name is a setting, that setting
with its value, if the value is joined as well. -/
def letters : Text → List Item × Option (Setting × Option Text)
  | [] => ([], none)
  | letter :: rest =>
    match Switch.ofLetter? letter with
    | some switch => (.switch switch :: (letters rest).1, (letters rest).2)
    | none =>
      match Setting.ofLetter? letter with
      | some setting =>
        ([], some (setting,
          match rest with
          | [] => none
          | '=' :: value => some value
          | value => some value))
      | none => ([.broken (.unknownArgument ['-', letter])], none)

/-- What an argument that names switches and settings says, and the setting whose value is still to
come. -/
def options (argument : Text) : List Item × Option Setting :=
  match argument with
  | '-' :: '-' :: body =>
    let name := body.takeWhile (· ≠ '=')
    let value := (body.drop name.length).tail
    let hasValue := body.contains '='
    match Switch.ofName? name, Setting.ofName? name with
    | some switch, _ =>
      (if hasValue then [.broken (.unexpectedValue argument)] else [.switch switch], none)
    | none, some setting =>
      if hasValue then ([.setting setting value], none) else ([], some setting)
    | none, none => ([.broken (.unknownArgument argument)], none)
  | argument =>
    match letters argument.tail with
    | (items, none) => (items, none)
    | (items, some (setting, some value)) => (items ++ [.setting setting value], none)
    | (items, some (setting, none)) => (items, some setting)

/-- What the arguments say, one after the other, after the setting whose value is still to come. -/
def items : Option Setting → List Text → List Item
  | none, [] => []
  | some setting, [] => [.broken (.missingValue setting.name.toList)]
  | some setting, argument :: rest =>
    if looksLikeOption argument then [.broken (.missingValue setting.name.toList)]
    else .setting setting argument :: items none rest
  | none, argument :: rest =>
    if argument = ['-', '-'] then rest.map .path
    else if looksLikeOption argument then
      let (found, awaited) := options argument
      found ++ items awaited rest
    else .path argument :: items none rest

/-! ## The invocation -/

/-- The greatest count. -/
def greatestCount : Nat := Nat.pow 2 64 - 1

/-- The count that a value writes, perhaps with a plus sign. -/
def count? (value : Text) : Option Nat :=
  let digits := if value.head? = some '+' then value.tail else value
  (Numeral.natOfDigits? 10 digits).filter (· ≤ greatestCount)

/-- A path that is given as an argument. -/
def checkPath (path : Path) : Except UsageError Path :=
  if path.isEmpty then .error .emptyPath else .ok path

namespace Invocation

/-- The invocation with a switch that must not be on yet. -/
def turnOn (switch : Switch) (isOn : Bool) (invocation : Invocation) :
    Except UsageError Invocation :=
  if isOn then .error (.repeated switch.name.toList) else .ok invocation

/-- The invocation after one more switch. -/
def withSwitch (invocation : Invocation) (switch : Switch) : Except UsageError Invocation :=
  match switch with
  | .dryRun => turnOn switch invocation.dryRun { invocation with dryRun := true }
  | .bestEffort => turnOn switch invocation.bestEffort { invocation with bestEffort := true }
  | .noBackup => turnOn switch invocation.noBackup { invocation with noBackup := true }
  | .fromInput => turnOn switch invocation.fromInput { invocation with fromInput := true }
  | .verbose => .ok { invocation with verbosity := invocation.verbosity + 1 }
  | .help => .error .help

/-- The invocation after one more setting. -/
def withSetting (invocation : Invocation) (setting : Setting) (value : Text) :
    Except UsageError Invocation :=
  let repeated := .error (.repeated setting.name.toList)
  match setting with
  | .config =>
    if invocation.config.isSome then repeated
    else (checkPath value).map fun path => { invocation with config := some path }
  | .jobs =>
    if invocation.jobs.isSome then repeated
    else
      match count? value with
      | some count => .ok { invocation with jobs := some count }
      | none => .error (.badCount value)
  | .pathHint =>
    if invocation.pathHint.isSome then repeated
    else .ok { invocation with pathHint := some value }

/-- The invocation after one more item. -/
def withItem (invocation : Invocation) : Item → Except UsageError Invocation
  | .switch switch => invocation.withSwitch switch
  | .setting setting value => invocation.withSetting setting value
  | .path path =>
    (checkPath path).map fun path => { invocation with paths := invocation.paths ++ [path] }
  | .broken error => .error error

/-- Checks that what is asked for does not contradict itself. -/
def check (invocation : Invocation) : Except UsageError Invocation :=
  if invocation.dryRun && invocation.bestEffort then
    .error (.conflict Switch.dryRun.name.toList Switch.bestEffort.name.toList)
  else if invocation.fromInput && !invocation.paths.isEmpty then
    .error (.conflict Switch.fromInput.name.toList "paths".toList)
  else .ok invocation

/-- The invocation that the arguments ask for. The configuration that the environment names counts if
the arguments name none. -/
def ofArguments (arguments : List Text) (configured : Option Path) :
    Except UsageError Invocation := do
  let invocation ← (items none arguments).foldlM withItem {}
  let invocation ← match invocation.config, configured with
    | none, some path => invocation.withSetting .config path
    | _, _ => .ok invocation
  invocation.check

end Invocation

end PlaybookRepair.CommandLine
