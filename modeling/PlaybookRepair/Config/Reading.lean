import PlaybookRepair.Config
import PlaybookRepair.Toml.Document

/-!
# Reading a configuration

The fields of a configuration are read from the table that a configuration text describes. A missing
field has its default and an unknown one is passed over; a known one with a value of the wrong kind is
an error. A record inside may also be written as the sequence of its fields in order.
-/

namespace PlaybookRepair

namespace Toml.Value

/-- The text of a string. -/
def text? : Value → Option Text
  | string text => some text
  | _ => none

/-- The truth value. -/
def boolean? : Value → Option Bool
  | boolean truth => some truth
  | _ => none

/-- The greatest count. -/
def greatestCount : Nat := Nat.pow 2 64 - 1

/-- The number of a count. -/
def count? : Value → Option Nat
  | integer n => if 0 ≤ n && n ≤ greatestCount then some n.toNat else none
  | _ => none

/-- The items of a sequence, each read. -/
def items? {α : Type} (item : Value → Option α) : Value → Option (List α)
  | array _ items => items.mapM item
  | _ => none

/-- A name: a string, or a table with an empty entry of that name. -/
def name? : Value → Option Text
  | string text => some text
  | table _ [(key, table _ [])] => some key
  | table _ [(key, array _ [])] => some key
  | _ => none

end Toml.Value

/-- The fields of a record, found by name or by position. -/
inductive Fields
  | named (entries : Toml.Entries)
  | listed (items : List Toml.Value)

namespace Fields

/-- The fields that a value gives to a record. A moment gives none. -/
def ofValue? : Toml.Value → Option Fields
  | .table _ entries => some (named entries)
  | .array _ items => some (listed items)
  | .moment => some (named [])
  | _ => none

/-- The value of a field. -/
def get? (fields : Fields) (name : String) (position : Nat) : Option Toml.Value :=
  match fields with
  | named entries => entries.lookup name.toList
  | listed items => items[position]?

/-- The value of a field, read, or its default. -/
def read {α : Type} (fields : Fields) (name : String) (position : Nat) (default : α)
    (value : Toml.Value → Option α) : Option α :=
  match fields.get? name position with
  | none => some default
  | some found => value found

end Fields

/-- The platform that a value describes. -/
def Platform.ofValue? (value : Toml.Value) : Option Platform := do
  let fields ← Fields.ofValue? value
  let name ← fields.get? "name" 0
  let name ← name.text?
  let versions ← fields.read "versions" 1 [] (·.items? (·.text?))
  return { name, versions }

/-- The overrides that a value describes. -/
def MetaOverrides.ofValue? (value : Toml.Value) : Option MetaOverrides := do
  let fields ← Fields.ofValue? value
  let text := fun (value : Toml.Value) => value.text?.map some
  let author ← fields.read "author" 0 none text
  let description ← fields.read "description" 1 none text
  let company ← fields.read "company" 2 none text
  let license ← fields.read "license" 3 none text
  let minAnsibleVersion ← fields.read "min_ansible_version" 4 none text
  let platforms ← fields.read "platforms" 5 none fun value =>
    (value.items? Platform.ofValue?).map some
  let galaxyTags ← fields.read "galaxy_tags" 6 none fun value => (value.items? (·.text?)).map some
  return { author, description, company, license, minAnsibleVersion, platforms, galaxyTags }

namespace Config

/-- The configuration that a table describes. -/
def ofEntries? (entries : Toml.Entries) : Option Config := do
  let fields := Fields.named entries
  let default : Config := {}
  let root ← fields.read "root" 0 none fun value => value.text?.map some
  let policy ← fields.read "write" 1 default.policy fun value =>
    value.name?.bind WritePolicy.ofName?
  let backup ← fields.read "backup" 2 default.backup (·.boolean?)
  let suffix ← fields.read "backup_suffix" 3 default.suffix (·.text?)
  let exclude ← fields.read "exclude" 4 default.exclude (·.items? (·.text?))
  let jobs ← fields.read "jobs" 5 default.jobs (·.count?)
  let overrides ← fields.read "meta" 6 default.overrides MetaOverrides.ofValue?
  return { root, policy, backup, suffix, exclude, jobs, overrides }

/-- The configuration that a text at a path describes. -/
def parse (path : Path) (text : Text) : Except ConfigError Config :=
  match Toml.Document.read text with
  | .error fault => .error (.malformed path fault.message)
  | .ok entries =>
    match ofEntries? entries with
    | some config => .ok config
    | none => .error (.malformed path "unexpected value")

/-- The configuration in a file, if there is such a file, given the answer to reading it. -/
def ofFile (path : Path) (content : Except FileError Text) : Except ConfigError (Option Config) :=
  match content with
  | .ok text => (parse path text).map some
  | .error (.system error) => .error (.unreadable path error)
  | .error _ => .ok none

end Config

end PlaybookRepair
