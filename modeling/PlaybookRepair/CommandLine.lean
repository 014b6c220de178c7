import PlaybookRepair.CommandLine.Arguments
import PlaybookRepair.Config.Reading
import PlaybookRepair.Run

/-!
# The command line

The program repairs the files that its arguments name and the documents below the directories that
they name, or a single document from the standard input. What the arguments leave open is taken from
the configuration.
-/

namespace PlaybookRepair.CommandLine

/-- What ends the program before its work is done. -/
inductive Failure
  | config (error : ConfigError)
  | noConfig (config : Path)
  | invalidRoot (root config : Path) (error : FileError)
  | nothingGiven (config : Path)
  | unreadableInput
  | file (error : FileError)
  /-- The document from the standard input is not repaired. -/
  | notRepaired (pathHint : Text) (reason : String)
deriving Repr, DecidableEq

/-- The wording of a failure. -/
def Failure.message : Failure → String
  | config error => error.message
  | noConfig path =>
    let path := String.ofList path
    s!"Config file '{path}' does not exist"
  | invalidRoot root path error =>
    let root := String.ofList root
    let path := String.ofList path
    s!"Root '{root}' from config file '{path}' is invalid: {error.message}"
  | nothingGiven path =>
    let path := String.ofList path
    s!"No paths given and no root set in {path}"
  | unreadableInput => "Failed to read stdin"
  | file error => error.message
  | notRepaired pathHint reason =>
    let pathHint := String.ofList pathHint
    s!"{pathHint}: {reason}"

/-- How the program ends. -/
structure Exit where
  code : Nat
  /-- What is said on the error stream. -/
  message : Option String := none
deriving Repr, DecidableEq

/-- The exit code of a run with failures. -/
def failureCode : Nat := 1

/-- The exit code of a command line that cannot be carried out. -/
def usageCode : Nat := 2

/-- An action that may end the program. -/
abbrev Step := ExceptT Failure Action

/-- A request as a step. -/
def ask (request : Request) : Step request.Answer := ExceptT.lift (.request request)

/-- A log entry as a step. -/
def tell (level : LogLevel) (message : String) : Step Unit := ExceptT.lift (.log level message)

/-- A result that may be a failure, as a step. -/
def orFail {ε α : Type} (failure : ε → Failure) (result : Except ε α) : Step α :=
  match result with
  | .ok value => pure value
  | .error error => throw (failure error)

/-! ## The configuration -/

/-- The environment variable that names the configuration. -/
def configVariable : Text := "PLAYBOOK_MENDER_CONFIG".toList

/-- The directory of the configuration that is used if none is named. -/
def configDirectory : Text := "~/.config/playbook-mender".toList

/-- The variables among the given names that have a value. -/
def environmentOf : List Text → Step (List (Text × Text))
  | [] => return []
  | name :: rest => do
    let value ← ask (.lookUp name)
    let environment ← environmentOf rest
    return ((value : Option Text).map fun value => (name, value)).toList ++ environment

/-- The configuration at a path, if there is one, with its root expanded. -/
def configAt (path : Path) : Step (Option Config) := do
  match ← orFail .config (Config.ofFile path (← ask (.read path))) with
  | none => return none
  | some config =>
    let names := (config.root.map Expansion.names).getD []
    return some (config.expandRoot (← environmentOf (Expansion.homeName :: names)))

/-- The configuration to use and its path. Only a configuration that is named has to exist. -/
def loadConfig (named : Option Path) : Step (Config × Path) := do
  let home ← environmentOf [Expansion.homeName]
  let path := named.getD (Path.child (Expansion.tilde home configDirectory) "config.toml".toList)
  match ← configAt path with
  | some config =>
    tell .debug ("loaded config from " ++ String.ofList path)
    return (config, path)
  | none =>
    if named.isSome then throw (.noConfig path)
    return ({}, path)

/-- How the files are to be treated. The arguments go before the configuration. -/
def runOptions (invocation : Invocation) (config : Config) : RunOptions where
  policy :=
    if invocation.dryRun then .dryRun
    else if invocation.bestEffort then .bestEffort
    else config.policy
  backupSuffix := if invocation.noBackup then none else config.backupSuffix
  jobs := invocation.jobs.getD config.jobs
  metaDefaults := config.overrides.apply {}

/-! ## The files -/

/-- The directories and files to start from. -/
def roots (invocation : Invocation) (config : Config) (configPath : Path) : Step (List Path) := do
  if !invocation.paths.isEmpty then return invocation.paths
  match config.root with
  | none => throw (.nothingGiven configPath)
  | some root =>
    if ← ask (.isDirectory root) then return [root]
    throw (.invalidRoot root configPath .rootNotDirectory)

/-- Whether one of the patterns describes a path below a root. -/
def isExcluded (patterns : List GlobPattern) (root path : Path) : Bool :=
  patterns.any fun pattern => pattern.describes (Path.below root path)

/-- The files that a root stands for: the documents below a directory that are not excluded, and
anything else itself. -/
def filesOf (patterns : List GlobPattern) (root : Path) : Step (List Path) := do
  if ← ask (.isDirectory root) then
    let documents := Location.documents root (← orFail .file (← ask (.survey root)))
    let (excluded, kept) := documents.partition (isExcluded patterns root)
    ExceptT.lift (.logAll (excluded.map fun path => ⟨.debug, "excluded " ++ String.ofList path⟩))
    return kept
  else return [root]

/-- The files that the roots stand for, in order and each once. -/
def collectFiles (patterns : List GlobPattern) (roots : List Path) : Step (List Path) := do
  return Path.withoutRepeats (Path.sort (← gather roots))
where
  /-- The files that the roots stand for, root by root. -/
  gather : List Path → Step (List Path)
    | [] => return []
    | root :: rest => do return (← filesOf patterns root) ++ (← gather rest)

/-! ## The work -/

/-- The path that tells the kind of a document from the standard input if none is given. -/
def defaultPathHint : Text := "stdin.yml".toList

/-- Repairs the document from the standard input and prints it. -/
def repairInput (pathHint : Text) (options : RunOptions) : Step Exit := do
  let text ← orFail (fun _ => .unreadableInput) (← ask .readInput)
  let result ← ExceptT.lift (Run.repairLogged options.metaDefaults pathHint text)
  let result ← orFail (fun error => .notRepaired pathHint error.message)
    (options.policy.accept result)
  ExceptT.lift (.logAll (result.ambiguities.map fun ambiguity =>
    .about pathHint .warn ambiguity.shown))
  ask (.print result.text)
  if !result.ok then throw (.notRepaired pathHint (result.diagnostic.getD "repair failed"))
  return { code := 0 }

/-- A line of text for the standard output. -/
def printLine (line : String) : Step Unit := ask (.print (line.toList ++ ['\n']))

/-- Repairs files and prints what became of them. -/
def repairPaths (paths : List Path) (options : RunOptions) : Step Exit := do
  tell .info s!"repairing {paths.length} files"
  let outcome ← ExceptT.lift (run options paths)
  outcome.reports.forM fun report => printLine report.shown
  printLine outcome.summary.shown
  return { code := if outcome.summary.hasFailures then failureCode else 0 }

/-- Does what the command line asks for. -/
def serve (invocation : Invocation) : Step Exit := do
  let (config, configPath) ← loadConfig invocation.config
  let options := runOptions invocation config
  if invocation.fromInput then repairInput (invocation.pathHint.getD defaultPathHint) options
  else
    let roots ← roots invocation config configPath
    let patterns ← orFail .config config.excludePatterns
    repairPaths (← collectFiles patterns roots) options

/-- How the program is called. -/
def usage : String :=
  "Usage: playbook-mender [--dry-run | --best-effort] [--no-backup] [--config FILE] [--jobs N] " ++
    "[--verbose]... [PATH... | --stdin [--path-hint PATH]]"

/-- The end of the program after a step. -/
def exitOf : Except Failure Exit → Exit
  | .ok exit => exit
  | .error failure => { code := failureCode, message := some ("Error: " ++ failure.message) }

/-- Carries out a command line. -/
def perform (arguments : List Text) : Action Exit := do
  match Invocation.ofArguments arguments (← .request (.lookUp configVariable)) with
  | .error .help =>
    .request (.print (usage.toList ++ ['\n']))
    return { code := 0 }
  | .error _ => return { code := usageCode, message := some usage }
  | .ok invocation => return exitOf (← (serve invocation).run.limitLog invocation.verbosity)

end PlaybookRepair.CommandLine
