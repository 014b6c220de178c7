import PlaybookRepair.FileKind
import PlaybookRepair.Yaml.Document

/-!
# Verification

A text is accepted for a kind of file if it is a YAML stream whose documents all have the shape that
the kind asks for. Documents are judged in order, and the first that cannot be read or has the wrong
shape decides. The diagnostic of a rejection is its message cut to a hundred characters.
-/

namespace PlaybookRepair

open Yaml (Value)

/-- What is wrong with the shape of a document. -/
inductive ShapeError
  /-- The root is not a mapping where one is wanted. -/
  | notMapping (kind : FileKind) (found : Value)
  /-- The root is not a sequence where one is wanted. -/
  | notSequence (kind : FileKind) (found : Value)
  /-- The item at the index, counted from zero, is not a mapping. -/
  | itemNotMapping (index : Nat) (found : Value)
  /-- Metadata of a role without any of the keys that tell it as such. -/
  | noMetaKey
deriving Repr

/-- Why a text is rejected. -/
inductive Rejection
  | unreadable (error : Yaml.DocumentError)
  /-- The document with the given number, counted from one, has the wrong shape. -/
  | misshapen (document : Nat) (error : ShapeError)
deriving Repr

/-- What a value is, as messages call it. -/
def Yaml.Value.description : Value → String
  | .null => "empty"
  | .bool _ => "a boolean"
  | .number _ => "a number"
  | .string _ => "a string"
  | .sequence _ => "a sequence"
  | .mapping _ => "a mapping"
  | .tagged .. => "a tagged value"

/-- The wording of a shape error. -/
def ShapeError.message : ShapeError → String
  | notMapping kind found => s!"{kind.name} is {found.description}, expected a mapping"
  | notSequence kind found => s!"{kind.name} is {found.description}, expected a sequence"
  | itemNotMapping index found =>
    s!"item {index + 1} is {found.description}, expected a mapping"
  | noMetaKey => "meta has neither galaxy_info nor dependencies"

/-- The wording of a rejection. -/
def Rejection.message : Rejection → String
  | unreadable error => error.message
  | misshapen document error => s!"document {document}: {error.message}"

/-- The longest diagnostic, in characters. -/
def diagnosticLimit : Nat := 100

/-- A message cut to the length of a diagnostic. -/
def cutDiagnostic (message : String) : String :=
  String.ofList (message.toList.take diagnosticLimit)

/-- What is reported about a rejection. -/
def Rejection.diagnostic (rejection : Rejection) : String := cutDiagnostic rejection.message

/-- Checks that every item of a sequence is a mapping, the first one having the given index. -/
def checkItems (index : Nat) : List Value → Except ShapeError Unit
  | [] => .ok ()
  | .mapping _ :: rest => checkItems (index + 1) rest
  | found :: _ => .error (.itemNotMapping index found)

/-- Checks that a value has the shape of a document of the given kind. An empty document will do
wherever the content is a list or a set of variables. -/
def FileKind.checkShape (kind : FileKind) (value : Value) : Except ShapeError Unit :=
  match kind with
  | .roleMeta =>
    match value with
    | .mapping _ =>
      if (value.entry? "galaxy_info".toList).isSome || (value.entry? "dependencies".toList).isSome
      then .ok () else .error .noMetaKey
    | found => .error (.notMapping kind found)
  | .vars =>
    match value with
    | .mapping _ => .ok ()
    | .null => .ok ()
    | found => .error (.notMapping kind found)
  | .playbook | .taskList =>
    match value with
    | .null => .ok ()
    | .sequence items => checkItems 0 items
    | found => .error (.notSequence kind found)
  | .unknown => .ok ()

/-- Checks the documents from the one with the given number on. -/
def FileKind.checkDocuments (kind : FileKind) (number : Nat) :
    List Yaml.Document → Except Rejection Unit
  | [] => .ok ()
  | document :: rest =>
    match document.value with
    | .error error => .error (.unreadable error)
    | .ok value =>
      match kind.checkShape value with
      | .error error => .error (.misshapen number error)
      | .ok () => checkDocuments kind (number + 1) rest

/-- Checks that a text is acceptable for the given kind of file. -/
def FileKind.verify (kind : FileKind) (text : Text) : Except Rejection Unit :=
  kind.checkDocuments 1 (Yaml.documents text)

/-- Whether a text is acceptable for the given kind of file. -/
def FileKind.accepts (kind : FileKind) (text : Text) : Bool := (kind.verify text).isOk

end PlaybookRepair
