import PlaybookRepair.Text.Basic

/-!
# Ambiguities

A rebuild that cannot place a line where it belongs keeps it somewhere else or drops it, and reports
it with the reason.
-/

namespace PlaybookRepair

/-- Why a line could not be placed where it belongs. -/
inductive AmbiguityReason
  | playAttributeOutsidePlay
  | taskAttributeOutsideTask
  | moduleOutsideTask
  | itemOutsideList
  | nothingToContinue
  | shellAfterAction
  | shellOutsideTask
  | duplicateVariable
  | nestedVariable
  | unparseableValue
deriving Repr, DecidableEq

namespace AmbiguityReason

/-- The wording of a reason. -/
def message : AmbiguityReason → String
  | playAttributeOutsidePlay => "play attribute outside a play"
  | taskAttributeOutsideTask => "task attribute outside a task"
  | moduleOutsideTask => "module outside a task"
  | itemOutsideList => "list item outside a list"
  | nothingToContinue => "continuation with nothing to continue"
  | shellAfterAction => "shell commands after the task's action"
  | shellOutsideTask => "shell block outside a task"
  | duplicateVariable => "duplicate variable dropped"
  | nestedVariable => "nested variable flattened"
  | unparseableValue => "unparseable value quoted"

end AmbiguityReason

/-- A line that could not be placed where it belongs. -/
structure Ambiguity where
  /-- The number of the source line. -/
  line : Nat
  /-- The trimmed content of the source line. -/
  content : Text
  reason : AmbiguityReason
deriving Repr, DecidableEq

/-- An ambiguity as it is shown. -/
def Ambiguity.shown (ambiguity : Ambiguity) : String :=
  let content := String.ofList ambiguity.content
  s!"line {ambiguity.line}: {ambiguity.reason.message} (\x60{content}\x60)"

/-- The outcome of a rebuild. -/
structure Rebuilt where
  text : Text
  ambiguities : List Ambiguity
deriving Repr, DecidableEq

end PlaybookRepair
