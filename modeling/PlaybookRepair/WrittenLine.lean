import PlaybookRepair.Repair

/-!
# Written lines and their columns

A line is moved to its column by formatting an empty text with the column as its width. The
formatter takes no width above `columnLimit`, and a greater one ends the whole program. Whether a
rebuild comes to its end therefore depends on all lines that it writes on the way, also on those of
a shell block that are later written over.

`Tracker.pushedLines` are the lines that the tracker writes for one line of the source, and
`Rebuild.writtenLines` those of a whole rebuild. `rebuild?` and `repair?` give what the program
gives: nothing if one of the lines is moved too far.
-/

namespace PlaybookRepair

/-- The greatest width that the formatter takes. -/
def columnLimit : Nat := 65535

/-- A line that the tracker writes. -/
inductive WrittenLine
  /-- A text that is moved to a column. -/
  | moved (column : Nat) (text : Text)
  /-- A line that is written as it is. -/
  | asIs (line : Text)
deriving Repr, DecidableEq

namespace WrittenLine

/-- The text of the line. -/
def text : WrittenLine → Text
  | moved column text => indented column text
  | asIs line => line

/-- The column to which the line is moved. -/
def column? : WrittenLine → Option Nat
  | moved column _ => some column
  | asIs _ => none

/-- Whether the formatter can write the line. An empty text is never formatted. -/
def fits : WrittenLine → Bool
  | moved column text => text.isEmpty || column ≤ columnLimit
  | asIs _ => true

end WrittenLine

namespace Tracker

/-! ## Shell blocks -/

/-- The lines of a shell block at a place. -/
def blockLines (mode : RebuildMode) (block : ShellBlock) (placement : Placement) :
    List WrittenLine :=
  match block.render (mode = .incremental) with
  | [] => []
  | (offset, text) :: rest =>
    let first : WrittenLine :=
      if placement.dashed then .moved taskColumn (listItemText text)
      else .moved (placement.depth + offset) text
    first :: rest.map fun (offset, text) => .moved (placement.depth + offset) text

/-- The blank line behind a shell block that ends with some. -/
def blankBehind (tracker : Tracker) (block : ShellBlock) : List WrittenLine :=
  if tracker.mode = .incremental && block.pendingBlanks > 0 then [.asIs []] else []

/-- The lines that are written when the open shell block is closed. -/
def flushedLines (tracker : Tracker) : List WrittenLine :=
  match tracker.nesting.shell with
  | some block =>
    blockLines tracker.mode block tracker.shellPlacement ++ tracker.blankBehind block
  | none => []

/-! ## Tasks -/

/-- The key of a list of tasks that is supplied where one is missing. -/
def sectionLines (tracker : Tracker) : List WrittenLine :=
  if tracker.nesting.play.isSome && tracker.nesting.taskSection.isNone then
    [.moved playKeyColumn "tasks:".toList]
  else []

/-- The lines that are written when a task is opened for a key that belongs into one. -/
def taskLines (tracker : Tracker) : List WrittenLine :=
  if tracker.nesting.task.isSome then [] else tracker.sectionLines

/-- A line of the open task. -/
def taskLine (tracker : Tracker) (text : Text) : WrittenLine :=
  if tracker.pendingDash then .moved taskColumn (listItemText text) else .moved taskKeyColumn text

/-- The lines that are written for a key of a task, which is opened if none is. -/
def taskKeyLines (tracker : Tracker) (token : LineToken) : List WrittenLine :=
  tracker.taskLines ++ [(tracker.ensureTask token.indent).taskLine token.keyedText]

/-- The lines that are written when a shell block is opened. -/
def shellTaskLines (tracker : Tracker) : List WrittenLine :=
  if tracker.canHoldTask then tracker.taskLines else []

/-! ## Lines by their role -/

/-- A line copied from the source. -/
def copiedLines (tracker : Tracker) (token : LineToken) : List WrittenLine :=
  if tracker.mode = .incremental then [.asIs (Text.trimEnd token.line.raw)] else []

/-- The line of a document marker. -/
def markerLines (tracker : Tracker) (token : LineToken) : List WrittenLine :=
  if tracker.mode = .incremental then [.asIs token.content] else []

/-- The lines of a key that has no section of its own. -/
def misplacedLines (tracker : Tracker) (token : LineToken) : List WrittenLine :=
  if tracker.nesting.play.isSome then [.moved playKeyColumn token.keyedText]
  else if tracker.canHoldTask then tracker.taskKeyLines token
  else [.moved 0 token.keyedText]

/-- The line of a continuation. -/
def continuationLines (tracker : Tracker) (token : LineToken) : List WrittenLine :=
  match tracker.lastKeyColumn with
  | some column => [.moved (column + indentStep) token.nestedText]
  | none => tracker.copiedLines token

/-- The lines of a module. -/
def moduleLines (tracker : Tracker) (token : LineToken) : List WrittenLine :=
  if token.key.any Catalog.isShellModule then tracker.shellTaskLines
  else if tracker.canHoldTask then tracker.taskKeyLines token
  else tracker.misplacedLines token

/-- The lines that are written when a line of a script opens or joins a shell block. -/
def fragmentLines (tracker : Tracker) : List WrittenLine :=
  match tracker.openAction with
  | some (.shell _ _) => []
  | some .other => tracker.closeTask.shellTaskLines
  | none => tracker.shellTaskLines

/-- The lines of any other key. -/
def keyValueLines (tracker : Tracker) (token : LineToken) : List WrittenLine :=
  if tracker.nesting.task.isSome || tracker.atActionPosition && tracker.canHoldTask then
    tracker.taskKeyLines token
  else [.moved (if tracker.nesting.play.isSome then playKeyColumn else 0) token.keyedText]

/-- The lines of a list item. -/
def listItemLines (tracker : Tracker) (token : LineToken) : List WrittenLine :=
  if tracker.atTaskPosition && (tracker.nesting.task.isNone || tracker.mode = .canonical) then
    tracker.sectionLines ++ [.moved taskColumn token.nestedText]
  else tracker.continuationLines token

/-- The lines of a line that belongs to no shell block and to no open key. -/
def placedLines (tracker : Tracker) (token : LineToken) : List WrittenLine :=
  match token.role with
  | .blank => []
  | .comment => tracker.copiedLines token
  | .documentMarker => tracker.markerLines token
  | .playHeader => [.moved playColumn (listItemText token.keyedText)]
  | .taskHeader _ => tracker.sectionLines ++ [.moved taskColumn (listItemText token.keyedText)]
  | .playAttribute =>
    if tracker.nesting.play.isNone then tracker.misplacedLines token
    else [.moved playKeyColumn token.keyedText]
  | .taskAttribute =>
    if tracker.nesting.task.isSome then tracker.taskKeyLines token
    else tracker.misplacedLines token
  | .moduleInvocation => tracker.moduleLines token
  | .shellFragment _ => tracker.fragmentLines
  | .keyValue => tracker.keyValueLines token
  | .listItem => tracker.listItemLines token
  | .continuation => tracker.continuationLines token

/-! ## A line of the source -/

/-- The line in the open key's value, if it belongs there. -/
def nestedLine? (tracker : Tracker) (token : LineToken) : Option WrittenLine :=
  match tracker.nesting.openKey.map (keyAt · token) with
  | none => none
  | some key =>
    if tracker.nestsUnder key token then
      let isText := key.literal || key.innerLiteral.isSome
      some (.moved (tracker.nestedColumn key token)
        (if isText then token.content else token.nestedText))
    else none

/-- A blank line that is kept. -/
def blankLines (tracker : Tracker) : List WrittenLine :=
  (tracker.pushBlank.out.drop tracker.out.length).map .asIs

/-- The lines of a line that no shell block has absorbed. -/
def outsideLines (tracker : Tracker) (token : LineToken) : List WrittenLine :=
  if token.role = .blank then tracker.blankLines
  else
    match tracker.nestedLine? token with
    | some line => [line]
    | none =>
      let left := tracker.leaveKey token
      let left := if left.mode = .incremental then left.closeByDedent token else left
      left.placedLines token

/-- The lines that are written for one more line of the source. -/
def pushedLines (tracker : Tracker) (token : LineToken) : List WrittenLine :=
  match tracker.extendShell? token with
  | some _ => []
  | none => tracker.flushedLines ++ tracker.flushShell.outsideLines token

end Tracker

namespace Rebuild

/-- The lines that are written for the given lines, each with whether it owns a `hosts` key, and at
the end of the document. -/
def writtenFrom (state : State) : List (Line × Bool) → List WrittenLine
  | [] => state.tracker.flushedLines
  | (line, itemHasHosts) :: rest =>
    let token := state.classify line itemHasHosts
    state.tracker.pushedLines token ++ writtenFrom (state.push token) rest

/-- The lines that are written in a rebuild. -/
def writtenLines (mode : RebuildMode) (kind : FileKind) (text : Text) : List WrittenLine :=
  let lines := Line.ofText text
  writtenFrom (.start mode kind) (lines.zip (ownsHosts lines))

/-- The columns to which lines are moved in a rebuild. -/
def columns (mode : RebuildMode) (kind : FileKind) (text : Text) : List Nat :=
  (writtenLines mode kind text).filterMap WrittenLine.column?

end Rebuild

/-- The rebuilt document, unless the program ends at a line that it cannot write. -/
def rebuild? (mode : RebuildMode) (kind : FileKind) (text : Text) : Option Rebuilt :=
  if (Rebuild.writtenLines mode kind text).all WrittenLine.fits then
    some (rebuild mode kind text)
  else none

/-- The text that a strategy makes, unless the program ends at a line that it cannot write. -/
def FileKind.candidate? (kind : FileKind) (defaults : MetaDefaults) (text : Text)
    (strategy : Strategy) : Option Rebuilt :=
  match kind, strategy with
  | .roleMeta, _ | .vars, _ => some (kind.candidate defaults text strategy)
  | kind, .incremental => rebuild? .incremental kind text
  | kind, _ => rebuild? .canonical kind text

/-- The strategies that have been carried out in the course of a repair. -/
def Repair.Course.tried (course : Course) : List Strategy :=
  let accepted := if course.result.status = .fixed then [course.result.strategy] else []
  course.attempts.map (·.strategy) ++ accepted

/-- The repair of a file, unless the program ends at a line that it cannot write. -/
def repair? (defaults : MetaDefaults) (path text : Text) : Option RepairResult :=
  let kind : FileKind := .detect path text
  let course := Repair.course kind defaults text
  if course.tried.all fun strategy => (kind.candidate? defaults text strategy).isSome then
    some course.result
  else none

end PlaybookRepair
