import PlaybookRepair.Config
import PlaybookRepair.Toml.QuotedString

/-!
# Writing a configuration

A configuration is written as a configuration text with all its fields, those of the overrides only
if they are set. A sequence of more than one string stands on lines of its own, and platforms get a
header each. The overrides have a header unless they consist of nothing but platforms.
-/

namespace PlaybookRepair.Config

/-- A line that gives a value to a key. -/
def pairLine (key : String) (value : Text) : Text := key.toList ++ " = ".toList ++ value ++ ['\n']

/-- A line for a value that may be missing. -/
def pairLine? (key : String) (value : Option Text) : Text := (value.map (pairLine key)).getD []

/-- A sequence of strings. -/
def stringsText : List Text → Text
  | [] => "[]".toList
  | [item] => '[' :: Toml.QuotedString.write item ++ [']']
  | items =>
    "[\n".toList ++
      items.flatMap (fun item => "    ".toList ++ Toml.QuotedString.write item ++ ",\n".toList) ++
      [']']

/-- A truth value. -/
def booleanText (truth : Bool) : Text := (if truth then "true" else "false").toList

/-- The lines of the overrides, platforms with headers aside. -/
def overridesText (overrides : MetaOverrides) : Text :=
  let string := fun (value : Option Text) => value.map Toml.QuotedString.write
  pairLine? "author" (string overrides.author) ++
    pairLine? "description" (string overrides.description) ++
    pairLine? "company" (string overrides.company) ++
    pairLine? "license" (string overrides.license) ++
    pairLine? "min_ansible_version" (string overrides.minAnsibleVersion) ++
    (if overrides.platforms = some [] then pairLine "platforms" "[]".toList else []) ++
    pairLine? "galaxy_tags" (overrides.galaxyTags.map stringsText)

/-- A platform with its header. -/
def platformText (platform : Platform) : Text :=
  "\n[[meta.platforms]]\n".toList ++ pairLine "name" (Toml.QuotedString.write platform.name) ++
    pairLine "versions" (stringsText platform.versions)

/-- The table of the overrides. -/
def metaText (overrides : MetaOverrides) : Text :=
  let body := overridesText overrides
  let platforms := overrides.platforms.getD []
  (if body.isEmpty && !platforms.isEmpty then [] else "\n[meta]\n".toList ++ body) ++
    platforms.flatMap platformText

/-- The text of a configuration. -/
def text (config : Config) : Text :=
  pairLine? "root" (config.root.map Toml.QuotedString.write) ++
    pairLine "write" (Toml.QuotedString.write config.policy.name.toList) ++
    pairLine "backup" (booleanText config.backup) ++
    pairLine "backup_suffix" (Toml.QuotedString.write config.suffix) ++
    pairLine "exclude" (stringsText config.exclude) ++
    pairLine "jobs" (Text.ofNat config.jobs) ++
    metaText config.overrides

end PlaybookRepair.Config
