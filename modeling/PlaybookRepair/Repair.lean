import PlaybookRepair.FileKind.Detection
import PlaybookRepair.MetaRebuild
import PlaybookRepair.Rebuild
import PlaybookRepair.VarsRebuild
import PlaybookRepair.Verification

/-!
# Repair

A text that is accepted for its kind is left alone. Otherwise the strategies for its kind are tried
in order, from the one that keeps most of the source to the one that trusts it least, and the first
rebuilt text that is accepted is the repair. If none is accepted the repair fails; the last rebuilt
text and its diagnostic are kept.
-/

namespace PlaybookRepair

/-- How a text was repaired. -/
inductive Strategy
  /-- The text was left alone. -/
  | untouched
  /-- The order and content of its lines were kept. -/
  | incremental
  /-- The text was built anew from the roles of its lines or from a template. -/
  | fullRebuild
deriving Repr, DecidableEq

/-- The name of a strategy. -/
def Strategy.name : Strategy → String
  | untouched => "none"
  | incremental => "incremental"
  | fullRebuild => "full-rebuild"

/-- The outcome of a repair. -/
inductive RepairStatus
  /-- The text was accepted as it is. -/
  | valid
  /-- A rebuilt text is accepted. -/
  | fixed
  /-- No rebuilt text is accepted. -/
  | failed
deriving Repr, DecidableEq

/-- The result of a repair. -/
structure RepairResult where
  kind : FileKind
  status : RepairStatus
  strategy : Strategy
  /-- The accepted text or, after a failure, the last rebuilt one. -/
  text : Text
  diagnostic : Option String
  ambiguities : List Ambiguity
deriving Repr, DecidableEq

namespace RepairResult

/-- Whether the text of the result is accepted. -/
def ok (result : RepairResult) : Bool := result.status ≠ .failed

/-- The result for a text that is accepted as it is. -/
def unchanged (kind : FileKind) (text : Text) : RepairResult where
  kind
  status := .valid
  strategy := .untouched
  text
  diagnostic := none
  ambiguities := []

/-- What is said about a repair by the given strategy. -/
def acceptedMessage (strategy : Strategy) (ambiguities : Nat) : String :=
  if ambiguities = 0 then s!"repaired with {strategy.name} strategy"
  else s!"repaired with {strategy.name} strategy; {ambiguities} ambiguous line(s)"

/-- The result for a rebuilt text that is accepted. -/
def accepted (kind : FileKind) (strategy : Strategy) (rebuilt : Rebuilt) : RepairResult where
  kind
  status := .fixed
  strategy
  text := rebuilt.text
  diagnostic := some (acceptedMessage strategy rebuilt.ambiguities.length)
  ambiguities := rebuilt.ambiguities

/-- The result for a rebuilt text that is not accepted. -/
def failed (kind : FileKind) (strategy : Strategy) (rebuilt : Rebuilt) (diagnostic : String) :
    RepairResult where
  kind
  status := .failed
  strategy
  text := rebuilt.text
  diagnostic := some diagnostic
  ambiguities := rebuilt.ambiguities

end RepairResult

/-- The strategies for a kind of file, in the order in which they are tried. -/
def FileKind.plan : FileKind → List Strategy
  | .roleMeta | .vars => [.fullRebuild]
  | .playbook | .taskList | .unknown => [.incremental, .fullRebuild]

/-- The text that a strategy makes of a text of the given kind. -/
def FileKind.candidate (kind : FileKind) (defaults : MetaDefaults) (text : Text)
    (strategy : Strategy) : Rebuilt :=
  match kind, strategy with
  | .roleMeta, _ => rebuildMeta defaults text
  | .vars, _ => rebuildVars text
  | kind, .incremental => rebuild .incremental kind text
  | kind, _ => rebuild .canonical kind text

/-- A strategy whose text was rejected. -/
structure Attempt where
  strategy : Strategy
  rebuilt : Rebuilt
  rejection : Rejection

/-- The diagnostic if there is no strategy at all. -/
def noStrategyMessage : String := "no strategy applies"

namespace Repair

/-- The attempts of the given strategies, up to the first that is accepted. -/
def tryStrategies (kind : FileKind) (defaults : MetaDefaults) (text : Text) :
    List Strategy → List Attempt × Option (Strategy × Rebuilt)
  | [] => ([], none)
  | strategy :: rest =>
    let rebuilt := kind.candidate defaults text strategy
    match kind.verify rebuilt.text with
    | .ok () => ([], some (strategy, rebuilt))
    | .error rejection =>
      let (attempts, found) := tryStrategies kind defaults text rest
      (⟨strategy, rebuilt, rejection⟩ :: attempts, found)

/-- The result after the given failed attempts. -/
def giveUp (kind : FileKind) (text : Text) (attempts : List Attempt) : RepairResult :=
  match attempts.getLast? with
  | some attempt => .failed kind attempt.strategy attempt.rebuilt attempt.rejection.diagnostic
  | none => .failed kind .untouched ⟨text, []⟩ noStrategyMessage

/-- What happened in the course of a repair. -/
structure Course where
  /-- Why the source was rejected, if it was. -/
  rejection : Option Rejection
  attempts : List Attempt
  result : RepairResult

/-- The course of the repair of a text of the given kind. -/
def course (kind : FileKind) (defaults : MetaDefaults) (text : Text) : Course :=
  match kind.verify text with
  | .ok () => ⟨none, [], .unchanged kind text⟩
  | .error rejection =>
    let (attempts, found) := tryStrategies kind defaults text kind.plan
    let result :=
      match found with
      | some (strategy, rebuilt) => .accepted kind strategy rebuilt
      | none => giveUp kind text attempts
    ⟨rejection, attempts, result⟩

end Repair

/-- The repair of the file with the given path and text. -/
def repair (defaults : MetaDefaults) (path text : Text) : RepairResult :=
  (Repair.course (.detect path text) defaults text).result

end PlaybookRepair
