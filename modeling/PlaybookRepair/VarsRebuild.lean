import PlaybookRepair.Ambiguity
import PlaybookRepair.Catalog.ShellFamily
import PlaybookRepair.InlineValue
import PlaybookRepair.KeyedLine
import PlaybookRepair.Yaml.Document

/-!
# Rebuilding a file of variables

A file of variables is rebuilt as a flat mapping of the keys that have a value on their own line.
List items, lines of a script, prose and keys with a nested value are dropped. A variable that was
nested moves to the top, and of several variables with one key the first is kept. A value that is no
YAML on its own is kept as a string.
-/

namespace PlaybookRepair

namespace VarsRebuild

/-- Whether a line gives a variable its value. -/
def isVariable (facts : LineFacts) : Bool :=
  !facts.dashed && facts.key.isSome && !InlineValue.opensBlock facts.value &&
    (Catalog.ShellFamily.ofContent? facts.content).isNone

/-- Whether a value can stand after a key. -/
def isReadable (value : Text) : Bool :=
  (Yaml.readSingle ("value: ".toList ++ value)).isOk

/-- What has been kept so far. -/
structure State where
  lines : List Text := ["---".toList]
  /-- The keys that have been seen. -/
  seen : List Text := []
  ambiguities : List Ambiguity := []

/-- The state with a report of a line. -/
def State.note (state : State) (facts : LineFacts) (reason : AmbiguityReason) : State :=
  { state with
    ambiguities := state.ambiguities ++ [⟨facts.line.number, facts.content, reason⟩] }

/-- The state with a variable under the given key. -/
def State.keep (state : State) (facts : LineFacts) (key : Text) : State :=
  let state := { state with seen := key :: state.seen }
  let state := if facts.indent > 0 then state.note facts .nestedVariable else state
  let value := InlineValue.quoteMapping facts.value
  let (value, state) :=
    if isReadable value then (value, state)
    else (InlineValue.doubleQuoted facts.value, state.note facts .unparseableValue)
  { state with lines := state.lines ++ [key ++ ": ".toList ++ value] }

/-- The state after one more line. -/
def State.push (state : State) (line : Line) : State :=
  let facts := LineFacts.ofLine line
  match facts.key with
  | none => state
  | some key =>
    if !isVariable facts then state
    else if state.seen.contains key then state.note facts .duplicateVariable
    else state.keep facts key

/-- The state after all lines of a text. -/
def run (text : Text) : State := (Line.ofText text).foldl State.push {}

end VarsRebuild

/-- The rebuilt file of variables. -/
def rebuildVars (text : Text) : Rebuilt :=
  let state := VarsRebuild.run text
  { text := Text.unlines state.lines, ambiguities := state.ambiguities }

end PlaybookRepair
