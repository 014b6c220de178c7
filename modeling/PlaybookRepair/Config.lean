import PlaybookRepair.Expansion
import PlaybookRepair.FileError
import PlaybookRepair.GlobPattern
import PlaybookRepair.MetaRebuild
import PlaybookRepair.WritePolicy

/-!
# Configurations

A configuration holds what a user would otherwise say on every command line: the directory to search,
the write policy, the backups, which files to leave out and the values of the template for the
metadata of roles.
-/

namespace PlaybookRepair

/-- Values of the template for the metadata of roles that differ from the defaults. -/
structure MetaOverrides where
  author : Option Text := none
  description : Option Text := none
  company : Option Text := none
  license : Option Text := none
  minAnsibleVersion : Option Text := none
  platforms : Option (List Platform) := none
  galaxyTags : Option (List Text) := none
deriving Repr, DecidableEq

/-- The defaults with the overrides in their places. -/
def MetaOverrides.apply (overrides : MetaOverrides) (defaults : MetaDefaults) : MetaDefaults where
  author := overrides.author.getD defaults.author
  description := overrides.description.getD defaults.description
  company := overrides.company.getD defaults.company
  license := overrides.license.getD defaults.license
  minAnsibleVersion := overrides.minAnsibleVersion.getD defaults.minAnsibleVersion
  platforms := overrides.platforms.getD defaults.platforms
  galaxyTags := overrides.galaxyTags.getD defaults.galaxyTags

/-- The name of a write policy. -/
def WritePolicy.name : WritePolicy → String
  | dryRun => "dry-run"
  | repaired => "repaired"
  | bestEffort => "best-effort"

/-- All write policies. -/
def WritePolicy.all : List WritePolicy := [dryRun, repaired, bestEffort]

/-- The write policy with the given name. -/
def WritePolicy.ofName? (name : Text) : Option WritePolicy :=
  all.find? fun policy => policy.name.toList = name

/-- A configuration. -/
structure Config where
  /-- The directory to search if no path is given. -/
  root : Option Path := none
  policy : WritePolicy := .repaired
  /-- Whether a file is copied before it is overwritten. -/
  backup : Bool := true
  suffix : Text := ".backup".toList
  exclude : List Text := []
  /-- The number of files to work on at the same time; zero leaves it open. -/
  jobs : Nat := 0
  overrides : MetaOverrides := {}
deriving Repr, DecidableEq

/-- What is wrong with a configuration. -/
inductive ConfigError
  | unreadable (path : Path) (error : SystemError)
  | malformed (path : Path) (reason : String)
  | badPattern (pattern : Text) (error : GlobPattern.Error)
deriving Repr, DecidableEq

/-- The wording of a configuration error. -/
def ConfigError.message : ConfigError → String
  | unreadable path error =>
    let path := String.ofList path
    s!"Failed to read config file at {path}: {error.message}"
  | malformed path reason =>
    let path := String.ofList path
    s!"Failed to parse config file at {path}: TOML parse error: {reason}"
  | badPattern pattern error =>
    let pattern := String.ofList (Text.quoted pattern)
    s!"Invalid exclude pattern {pattern}: {error.message}"

namespace Config

/-- What the name of a backup copy has in addition, unless there are no backups. -/
def backupSuffix (config : Config) : Option Text := if config.backup then some config.suffix else none

/-- The patterns of the paths to leave out; the first text that is no pattern is an error. -/
def excludePatterns (config : Config) : Except ConfigError (List GlobPattern) :=
  config.exclude.mapM fun pattern =>
    match GlobPattern.ofText pattern with
    | .ok compiled => .ok compiled
    | .error error => .error (.badPattern pattern error)

/-- The configuration with the variables and the tilde of its root replaced; a root whose variables
have no value stays as it is. -/
def expandRoot (environment : List (Text × Text)) (config : Config) : Config :=
  { config with
    root := config.root.map fun root => (Expansion.expand? environment root).getD root }

/-- Whether two configurations are the same, their roots being compared as paths. -/
def same (left right : Config) : Bool :=
  { left with root := none } = { right with root := none } &&
    left.root.map Path.components = right.root.map Path.components

end Config

end PlaybookRepair
