import PlaybookRepair.Ambiguity
import PlaybookRepair.InlineValue
import PlaybookRepair.KeyedLine

/-!
# Rebuilding the metadata of a role

The metadata of a role is rebuilt from a template. Scalar fields that can be recognised anywhere in
the old text keep their first value; the other fields and the lists come from defaults.
-/

namespace PlaybookRepair

/-- A platform that a role supports. -/
structure Platform where
  name : Text
  versions : List Text
deriving Repr, DecidableEq

/-- The values of the template. -/
structure MetaDefaults where
  author : Text := "Unknown".toList
  description : Text := "Ansible role".toList
  company : Text := []
  license : Text := "license (MIT)".toList
  minAnsibleVersion : Text := "2.1".toList
  platforms : List Platform := [⟨"EL".toList, ["7".toList, "8".toList, "9".toList]⟩]
  galaxyTags : List Text := []
deriving Repr, DecidableEq

/-- A scalar field of the template. -/
inductive MetaField
  | roleName
  | namespaceName
  | author
  | description
  | company
  | license
  | minAnsibleVersion
deriving Repr, DecidableEq

namespace MetaField

/-- The fields in the order of the template. -/
def all : List MetaField :=
  [roleName, namespaceName, author, description, company, license, minAnsibleVersion]

/-- The key of a field. -/
def key : MetaField → Text
  | roleName => "role_name".toList
  | namespaceName => "namespace".toList
  | author => "author".toList
  | description => "description".toList
  | company => "company".toList
  | license => "license".toList
  | minAnsibleVersion => "min_ansible_version".toList

/-- The default of a field; a role has no default name. -/
def default? (defaults : MetaDefaults) : MetaField → Option Text
  | roleName | namespaceName => none
  | author => some defaults.author
  | description => some defaults.description
  | company => some defaults.company
  | license => some defaults.license
  | minAnsibleVersion => some defaults.minAnsibleVersion

/-- The value that a line gives to a field, if it gives one. -/
def valueIn? (field : MetaField) (facts : LineFacts) : Option Text :=
  if facts.key = some field.key then
    let value := Text.trim (InlineValue.stripQuotes facts.value)
    if value.isEmpty then none else some value
  else none

/-- The first value of a field among the lines of a text. -/
def salvage? (field : MetaField) (lines : List LineFacts) : Option Text :=
  lines.findSome? field.valueIn?

end MetaField

namespace MetaRebuild

/-- A key with a list of values, one to a line after the given text, or with an empty list. -/
def listLines (indent : Text) (key : String) (items : List Text) : List Text :=
  if items.isEmpty then [indent ++ key.toList ++ ": []".toList]
  else (indent ++ key.toList ++ [':']) :: items.map fun item =>
    indent ++ "  - ".toList ++ InlineValue.plainOrQuoted item

/-- The lines of a platform. -/
def platformLines (platform : Platform) : List Text :=
  ("    - name: ".toList ++ InlineValue.plainOrQuoted platform.name) ::
    listLines "      ".toList "versions" platform.versions

/-- The lines of all platforms. -/
def platformsLines (platforms : List Platform) : List Text :=
  if platforms.isEmpty then ["  platforms: []".toList]
  else "  platforms:".toList :: platforms.flatMap platformLines

/-- The line of a scalar field, if the field has a value. -/
def fieldLine? (defaults : MetaDefaults) (lines : List LineFacts) (field : MetaField) :
    Option Text :=
  ((field.salvage? lines).or (field.default? defaults)).map fun value =>
    "  ".toList ++ field.key ++ ": ".toList ++ InlineValue.plainOrQuoted value

/-- The lines of the template. -/
def templateLines (defaults : MetaDefaults) (lines : List LineFacts) : List Text :=
  ["---".toList, "galaxy_info:".toList] ++ MetaField.all.filterMap (fieldLine? defaults lines) ++
    platformsLines defaults.platforms ++ listLines "  ".toList "galaxy_tags" defaults.galaxyTags ++
    [[], "dependencies: []".toList]

end MetaRebuild

/-- The rebuilt metadata of a role. -/
def rebuildMeta (defaults : MetaDefaults) (text : Text) : Rebuilt where
  text := Text.unlines
    (MetaRebuild.templateLines defaults ((Line.ofText text).map LineFacts.ofLine))
  ambiguities := []

end PlaybookRepair
