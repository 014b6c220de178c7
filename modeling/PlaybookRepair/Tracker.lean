import PlaybookRepair.Ambiguity
import PlaybookRepair.Nesting

/-!
# The tracker

The tracker writes a document anew from its lines. It is fed one classified line at a time, keeps
what is open around it, and puts every line at the column of its role; a missing list of tasks is
supplied, and a task that has lost its header gets a list marker of its own.

Lines of a script are gathered into a shell block, which is written when a line comes that does not
belong to it. At most one block is open at a time, and no other line is written before it is closed.
A block that has been written stays remembered with its place while its task is open: later lines of
a script in the same task join it, and the block is then written again over its earlier lines.

In the incremental mode source columns decide where sections end, and comments, blank lines and the
order of lines are kept. In the canonical mode every line is placed by its role alone; comments and
blank lines are dropped.
-/

namespace PlaybookRepair

open InlineValue (isBlockIndicator quoteMapping quoteTemplate)

/-- How far a rebuild trusts the layout of the source. -/
inductive RebuildMode
  /-- Source columns decide where sections end. -/
  | incremental
  /-- Source columns only delimit block scalars. -/
  | canonical
deriving Repr, DecidableEq

/-- Where a shell block has been written: `length` lines from the line `start` on. -/
structure Placement where
  start : Nat
  length : Nat
  /-- The column of the block's key. -/
  depth : Nat
  /-- The first line carries the list marker of its task. -/
  dashed : Bool
deriving Repr, DecidableEq

/-- What a task runs. -/
inductive TaskAction
  /-- A script, kept with its place so that later lines can join it. -/
  | shell (block : ShellBlock) (placement : Placement)
  /-- Any other module. -/
  | other
deriving Repr, DecidableEq

/-- The state of a rebuild between two lines. -/
structure Tracker where
  mode : RebuildMode
  kind : FileKind
  nesting : Nesting := {}
  /-- The lines that have been written. -/
  out : List Text
  ambiguities : List Ambiguity := []
  /-- The column of the key that was written last, below which continuations go. -/
  lastKeyColumn : Option Nat := none
  /-- The open task has no header; its first line gets the list marker. -/
  pendingDash : Bool := false
  /-- What the open task runs, once that has been written. -/
  taskAction : Option TaskAction := none
  /-- The place of the open shell block, if it had been written before it was opened again. -/
  reopened : Option Placement := none
deriving Repr, DecidableEq

/-- A text moved to a column; an empty text stays empty. -/
def indented (column : Nat) (text : Text) : Text :=
  if text.isEmpty then text else List.replicate column ' ' ++ text

/-- A text after a list marker. -/
def listItemText (text : Text) : Text := '-' :: ' ' :: text

namespace LineToken

/-- The source column of the line's key. -/
def keyColumn (token : LineToken) : Nat :=
  if token.dashed then token.indent + indentStep else token.indent

/-- The line as a key with its value. -/
def keyedText (token : LineToken) : Text :=
  let key := token.key.getD []
  if token.value.isEmpty then key ++ [':'] else key ++ ": ".toList ++ quoteMapping token.value

/-- The line as part of another key's value. -/
def nestedText (token : LineToken) : Text :=
  match token.dashed, token.key with
  | true, some _ => listItemText token.keyedText
  | true, none => if token.body.isEmpty then ['-'] else listItemText (quoteTemplate token.body)
  | false, some _ => token.keyedText
  | false, none => token.content

end LineToken

namespace Tracker

/-- The start of a rebuild. The canonical form starts with a document marker. -/
def start (mode : RebuildMode) (kind : FileKind) : Tracker where
  mode
  kind
  out := match mode with
    | .canonical => ["---".toList]
    | .incremental => []

/-- What the tracker knows about the surroundings of the next line. -/
def surroundings (tracker : Tracker) (previousOpensBlock itemHasHosts : Bool) : Surroundings where
  kind := tracker.kind
  playOpen := tracker.nesting.play.isSome
  taskIndent := tracker.nesting.task
  inTaskSection := tracker.nesting.taskSection.isSome
  previousOpensBlock
  itemHasHosts
  useIndent := tracker.mode = .incremental

/-! ## Writing -/

/-- The tracker with one more line. -/
def emitLine (tracker : Tracker) (line : Text) : Tracker :=
  { tracker with out := tracker.out ++ [line] }

/-- The tracker with a text written at a column. -/
def emit (tracker : Tracker) (column : Nat) (text : Text) : Tracker :=
  tracker.emitLine (indented column text)

/-- The tracker with a line of a task, which carries the list marker if the task still lacks it. -/
def emitTaskLine (tracker : Tracker) (text : Text) : Tracker :=
  if tracker.pendingDash then
    { tracker with pendingDash := false }.emit taskColumn (listItemText text)
  else tracker.emit taskKeyColumn text

/-- The tracker with a report of a line. -/
def note (tracker : Tracker) (token : LineToken) (reason : AmbiguityReason) : Tracker :=
  { tracker with
    ambiguities := tracker.ambiguities ++ [⟨token.line.number, token.content, reason⟩] }

/-- The tracker with other open sections. -/
def withNesting (tracker : Tracker) (nesting : Nesting) : Tracker := { tracker with nesting }

/-- The tracker without an open key. -/
def closeKey (tracker : Tracker) : Tracker :=
  tracker.withNesting { tracker.nesting with openKey := none }

/-- The tracker without an open task. -/
def closeTask (tracker : Tracker) : Tracker :=
  { tracker with nesting := { tracker.nesting with task := none }, pendingDash := false }

/-- The tracker after a key written at a column; the key is open if its value continues below. -/
def afterKey (tracker : Tracker) (token : LineToken) (column : Nat) : Tracker :=
  let openKey : OpenKey :=
    { sourceIndent := token.keyColumn, depth := column, literal := isBlockIndicator token.value }
  { tracker with
    lastKeyColumn := some column
    nesting := { tracker.nesting with openKey := if token.opensBlock then some openKey else none } }

/-- The tracker with a key of the line written at a column. -/
def emitKey (tracker : Tracker) (token : LineToken) (column : Nat) : Tracker :=
  (tracker.emit column token.keyedText).afterKey token column

/-- The tracker with a header written at a column; its keys stand one step deeper. -/
def emitHeader (tracker : Tracker) (token : LineToken) (column : Nat) : Tracker :=
  (tracker.emit column (listItemText token.keyedText)).afterKey token (column + indentStep)

/-- The tracker with a key of the open task. -/
def emitTaskKey (tracker : Tracker) (token : LineToken) : Tracker :=
  (tracker.closeKey.emitTaskLine token.keyedText).afterKey token taskKeyColumn

/-! ## Tasks -/

/-- Whether a task may start here. -/
def atTaskPosition (tracker : Tracker) : Bool :=
  match tracker.kind with
  | .playbook => tracker.nesting.play.isSome
  | .taskList => true
  | _ => tracker.nesting.taskSection.isSome

/-- The tracker with a list of tasks open, if a play is; a missing one is supplied. -/
def ensureTaskSection (tracker : Tracker) (sourceIndent : Nat) : Tracker :=
  if tracker.nesting.play.isSome && tracker.nesting.taskSection.isNone then
    let tracker := tracker.emit playKeyColumn "tasks:".toList
    tracker.withNesting { tracker.nesting with taskSection := some sourceIndent }
  else tracker

/-- The tracker with a new task. -/
def openTask (tracker : Tracker) (sourceIndent : Nat) : Tracker :=
  { tracker with
    nesting := { tracker.nesting with task := some sourceIndent }, taskAction := none }

/-- Whether a task is open or may be opened for a line that belongs into one. -/
def canHoldTask (tracker : Tracker) : Bool :=
  tracker.nesting.task.isSome || tracker.atTaskPosition

/-- The tracker with a task open for a key at a source column; a task opened so has no name. -/
def ensureTask (tracker : Tracker) (keyIndent : Nat) : Tracker :=
  if tracker.nesting.task.isSome then tracker
  else
    let sourceIndent := keyIndent - indentStep
    { (tracker.ensureTaskSection sourceIndent).openTask sourceIndent with pendingDash := true }

/-! ## Shell blocks -/

/-- The tracker with a shell block open. -/
def openShell (tracker : Tracker) (token : LineToken) (block : ShellBlock) : Tracker :=
  let tracker := tracker.closeKey
  let tracker :=
    if tracker.canHoldTask then tracker.ensureTask token.indent
    else tracker.note token .shellOutsideTask
  tracker.withNesting { tracker.nesting with shell := some block }

/-- What the open task runs. -/
def openAction (tracker : Tracker) : Option TaskAction :=
  if tracker.nesting.task.isSome then tracker.taskAction else none

/-- A line of a script outside a shell block. In a task that runs a script already it joins that
script, which is then open again; after any other action it starts a task of its own. -/
def openFragment (tracker : Tracker) (token : LineToken) : Tracker :=
  let action := tracker.openAction
  let tracker := { tracker with taskAction := none }
  match action with
  | some (.shell block placement) =>
    let block := block.reopen.push token
    { tracker with
      nesting := { tracker.nesting with openKey := none, shell := some block }
      reopened := some placement }
  | some .other =>
    (tracker.note token .shellAfterAction).closeTask.openShell token (.ofFragment token)
  | none => tracker.openShell token (.ofFragment token)

/-- The tracker with the line absorbed by the open shell block, if the line belongs to it. -/
def extendShell? (tracker : Tracker) (token : LineToken) : Option Tracker :=
  match tracker.nesting.shell with
  | none => none
  | some block =>
    let extended :=
      if token.role = .blank then some block.pushBlank
      else if block.accepts token then some (block.push token)
      else none
    extended.map fun block => tracker.withNesting { tracker.nesting with shell := some block }

/-- Where the open shell block is to be written: at its earlier place, or at the end. -/
def shellPlacement (tracker : Tracker) : Placement :=
  tracker.reopened.getD
    { start := tracker.out.length
      length := 0
      depth := tracker.nesting.keyColumn
      dashed := tracker.nesting.task.isSome && tracker.pendingDash }

/-- The lines of a shell block at a place. -/
def shellLines (mode : RebuildMode) (block : ShellBlock) (placement : Placement) : List Text :=
  match block.render (mode = .incremental) with
  | [] => []
  | (offset, text) :: rest =>
    let first :=
      if placement.dashed then indented taskColumn (listItemText text)
      else indented (placement.depth + offset) text
    first :: rest.map fun (offset, text) => indented (placement.depth + offset) text

/-- The tracker with a stretch of its lines replaced. -/
def replaceLines (tracker : Tracker) (placement : Placement) (lines : List Text) : Tracker :=
  { tracker with
    out := tracker.out.take placement.start ++ lines ++
      tracker.out.drop (placement.start + placement.length) }

/-- The tracker after the open shell block has been written. The block stays remembered in its task;
a bare key is left open instead, since the lines below are the arguments of its module. -/
def closeShell (tracker : Tracker) (block : ShellBlock) : Tracker :=
  let placement := tracker.shellPlacement
  let lines := shellLines tracker.mode block placement
  let pendingDash :=
    tracker.pendingDash && (tracker.reopened.isSome || tracker.nesting.task.isNone)
  let openKey : OpenKey :=
    { sourceIndent := block.startIndent, depth := placement.depth, literal := false }
  let action : TaskAction :=
    if block.isBare then .other else .shell block { placement with length := lines.length }
  let written := tracker.replaceLines placement lines
  let written : Tracker :=
    { written with
      nesting := { written.nesting with
        shell := none
        openKey := if block.isBare then some openKey else written.nesting.openKey }
      lastKeyColumn := some placement.depth
      pendingDash
      reopened := none
      taskAction := if written.nesting.task.isSome then some action else written.taskAction }
  if tracker.mode = .incremental && block.pendingBlanks > 0 then written.emitLine [] else written

/-- The tracker without an open shell block. -/
def flushShell (tracker : Tracker) : Tracker :=
  match tracker.nesting.shell with
  | some block => tracker.closeShell block
  | none => tracker

/-! ## Values below a key -/

/-- The open key at a line: a block scalar among its nested lines ends at a line that is not
indented deeper. -/
def keyAt (key : OpenKey) (token : LineToken) : OpenKey :=
  { key with innerLiteral := key.innerLiteral.filter fun inner => inner.sourceIndent < token.indent }

/-- Whether a line belongs to the value of the open key. -/
def nestsUnder (tracker : Tracker) (key : OpenKey) (token : LineToken) : Bool :=
  if key.literal then key.sourceIndent < token.indent
  else if key.innerLiteral.isSome then true
  else
    match tracker.mode with
    | .incremental =>
      key.sourceIndent < token.indent ||
        (token.indent = key.sourceIndent && token.dashed && !token.role.isHeader)
    | .canonical => token.role = .keyValue || token.role = .listItem || token.role = .continuation

/-- The column of a line in the value of the open key. -/
def nestedColumn (tracker : Tracker) (key : OpenKey) (token : LineToken) : Nat :=
  match tracker.mode with
  | .incremental => key.depth + (token.indent - key.sourceIndent)
  | .canonical => ((key.innerLiteral.map (·.depth)).getD key.depth) + indentStep

/-- The open key after a line of its value, written at a column. -/
def keyAfter (key : OpenKey) (token : LineToken) (column : Nat) : OpenKey :=
  if !key.literal && key.innerLiteral.isNone && token.key.isSome &&
      isBlockIndicator token.value then
    let marker := if token.dashed then indentStep else 0
    { key with innerLiteral := some ⟨token.indent + marker, column + marker⟩ }
  else key

/-- The tracker with the line written as part of the open key's value, if it belongs there. -/
def takeNested? (tracker : Tracker) (token : LineToken) : Option Tracker :=
  match tracker.nesting.openKey.map (keyAt · token) with
  | none => none
  | some key =>
    if tracker.nestsUnder key token then
      let column := tracker.nestedColumn key token
      let isText := key.literal || key.innerLiteral.isSome
      let written := tracker.emit column (if isText then token.content else token.nestedText)
      some (written.withNesting
        { written.nesting with openKey := some (keyAfter key token column) })
    else none

/-- The tracker after a line that is not part of the open key's value, which ends the value unless
it is a comment. -/
def leaveKey (tracker : Tracker) (token : LineToken) : Tracker :=
  if token.role = .comment then tracker else tracker.closeKey

/-! ## Sections -/

/-- Whether a line is bound to its task even at the column of the task's list marker. -/
def bindsToTask : Role → Bool
  | .taskAttribute | .moduleInvocation | .shellFragment _ | .continuation => true
  | _ => false

/-- Whether a line leaves the open task by its column. -/
def leavesTask (tracker : Tracker) (token : LineToken) : Bool :=
  tracker.nesting.task.any fun task =>
    token.indent < task || (token.indent = task && !bindsToTask token.role)

/-- Whether a line leaves the open list of tasks by its column. -/
def leavesSection (tracker : Tracker) (token : LineToken) : Bool :=
  tracker.nesting.play.isSome && tracker.nesting.task.isNone &&
    tracker.nesting.taskSection.any fun indent =>
      token.indent < indent ||
        (token.indent = indent && !token.dashed && !bindsToTask token.role)

/-- The tracker without the task and the list of tasks that a line leaves by its column. Comments,
document markers and headers leave nothing by their column. -/
def closeByDedent (tracker : Tracker) (token : LineToken) : Tracker :=
  if token.role = .comment || token.role = .documentMarker || token.role.isHeader then tracker
  else
    let tracker := if tracker.leavesTask token then tracker.closeTask else tracker
    if tracker.leavesSection token then
      tracker.withNesting { tracker.nesting with taskSection := none }
    else tracker

/-! ## Lines by their role -/

/-- A blank line is kept in the incremental mode, but of several in a row only one, except within a
block scalar. -/
def pushBlank (tracker : Tracker) : Tracker :=
  let inLiteral :=
    tracker.nesting.openKey.any fun key => key.literal || key.innerLiteral.isSome
  if tracker.mode = .canonical then tracker
  else if inLiteral || tracker.out.getLast?.any (!·.isEmpty) then tracker.emitLine []
  else tracker

/-- A line copied from the source without the blanks at its end. -/
def copyLine (tracker : Tracker) (token : LineToken) : Tracker :=
  if tracker.mode = .incremental then tracker.emitLine (Text.trimEnd token.line.raw) else tracker

/-- A document marker closes everything. -/
def pushDocumentMarker (tracker : Tracker) (token : LineToken) : Tracker :=
  let closed :=
    { tracker with
      nesting := tracker.nesting.reset, lastKeyColumn := none, pendingDash := false }
  if closed.mode = .incremental then closed.emitLine token.content else closed

/-- A header of a play. -/
def pushPlayHeader (tracker : Tracker) (token : LineToken) : Tracker :=
  { tracker with
    nesting := { tracker.nesting.reset with play := some token.indent }
    pendingDash := false }.emitHeader token playColumn

/-- A header of a task. Without its list marker it stands where the keys of a task stand. -/
def pushTaskHeader (tracker : Tracker) (token : LineToken) : Tracker :=
  let sourceIndent := if token.dashed then token.indent else token.indent - indentStep
  let tracker :=
    tracker.withNesting { tracker.nesting with task := none, openKey := none }
  let tracker := (tracker.ensureTaskSection sourceIndent).openTask sourceIndent
  { tracker with pendingDash := false }.emitHeader token taskColumn

/-- A keyed line that has no section of its own is kept under the nearest one around it. -/
def pushMisplaced (tracker : Tracker) (token : LineToken) (reason : AmbiguityReason) : Tracker :=
  let tracker := tracker.note token reason
  if tracker.nesting.play.isSome then
    { tracker with nesting := tracker.nesting.closeTasks, pendingDash := false }.emitKey token
      playKeyColumn
  else if tracker.canHoldTask then (tracker.ensureTask token.indent).emitTaskKey token
  else tracker.emitKey token 0

/-- A keyword of a play. The key of a list of tasks opens that list. -/
def pushPlayAttribute (tracker : Tracker) (token : LineToken) : Tracker :=
  if tracker.nesting.play.isNone then tracker.pushMisplaced token .playAttributeOutsidePlay
  else
    let closed :=
      { tracker with nesting := tracker.nesting.closeTasks, pendingDash := false }
    if token.key.any Catalog.isTaskSection && token.opensBlock &&
        !isBlockIndicator token.value then
      let written := closed.emit playKeyColumn token.keyedText
      { written with
        lastKeyColumn := some playKeyColumn
        nesting := { written.nesting with taskSection := some token.indent } }
    else closed.emitKey token playKeyColumn

/-- A keyword of a task. -/
def pushTaskAttribute (tracker : Tracker) (token : LineToken) : Tracker :=
  if tracker.nesting.task.isSome then tracker.emitTaskKey token
  else tracker.pushMisplaced token .taskAttributeOutsideTask

/-- The key of a module. -/
def pushModule (tracker : Tracker) (token : LineToken) : Tracker :=
  if token.key.any Catalog.isShellModule then tracker.openShell token (.ofModule token)
  else if tracker.canHoldTask then
    { (tracker.ensureTask token.indent).emitTaskKey token with taskAction := some .other }
  else tracker.pushMisplaced token .moduleOutsideTask

/-- Whether a key that is not known may be the action of a task without a header. -/
def atActionPosition (tracker : Tracker) : Bool :=
  tracker.nesting.taskSection.isSome ||
    (tracker.nesting.play.isNone && tracker.kind = .taskList)

/-- Any other key. -/
def pushKeyValue (tracker : Tracker) (token : LineToken) : Tracker :=
  if tracker.nesting.task.isSome then tracker.emitTaskKey token
  else if tracker.atActionPosition && tracker.canHoldTask then
    (tracker.ensureTask token.indent).emitTaskKey token
  else tracker.emitKey token (if tracker.nesting.play.isSome then playKeyColumn else 0)

/-- A line that continues what came before is placed below the last key. Where there is none, the
incremental mode copies it. -/
def pushContinuation (tracker : Tracker) (token : LineToken) : Tracker :=
  match tracker.lastKeyColumn with
  | some column => tracker.emit (column + indentStep) token.nestedText
  | none => tracker.copyLine token

/-- A line of unknown role. -/
def pushUnplaced (tracker : Tracker) (token : LineToken) : Tracker :=
  if tracker.lastKeyColumn.isSome then tracker.pushContinuation token
  else (tracker.note token .nothingToContinue).pushContinuation token

/-- A line with a list marker is a task where one may start. -/
def pushListItem (tracker : Tracker) (token : LineToken) : Tracker :=
  if tracker.atTaskPosition && (tracker.nesting.task.isNone || tracker.mode = .canonical) then
    let tracker :=
      { tracker with
        nesting := { tracker.nesting with task := none, openKey := none }, pendingDash := false }
    let tracker :=
      (tracker.ensureTaskSection token.indent).emit taskColumn token.nestedText
    if token.key.isSome then (tracker.openTask token.indent).afterKey token taskKeyColumn
    else { tracker with lastKeyColumn := some taskColumn }
  else (tracker.note token .itemOutsideList).pushContinuation token

/-- The tracker after a line that belongs to no shell block and to no open key. -/
def place (tracker : Tracker) (token : LineToken) : Tracker :=
  match token.role with
  | .blank => tracker
  | .comment => tracker.copyLine token
  | .documentMarker => tracker.pushDocumentMarker token
  | .playHeader => tracker.pushPlayHeader token
  | .taskHeader _ => tracker.pushTaskHeader token
  | .playAttribute => tracker.pushPlayAttribute token
  | .taskAttribute => tracker.pushTaskAttribute token
  | .moduleInvocation => tracker.pushModule token
  | .shellFragment _ => tracker.openFragment token
  | .keyValue => tracker.pushKeyValue token
  | .listItem => tracker.pushListItem token
  | .continuation => tracker.pushUnplaced token

/-- The tracker after a line that no shell block has absorbed. -/
def pushOutsideShell (tracker : Tracker) (token : LineToken) : Tracker :=
  if token.role = .blank then tracker.pushBlank
  else
    match tracker.takeNested? token with
    | some taken => taken
    | none =>
      let left := tracker.leaveKey token
      let left := if left.mode = .incremental then left.closeByDedent token else left
      left.place token

/-- The tracker after one more line. -/
def push (tracker : Tracker) (token : LineToken) : Tracker :=
  match tracker.extendShell? token with
  | some extended => extended
  | none => tracker.flushShell.pushOutsideShell token

/-! ## The end of a document -/

/-- Lines without the empty ones at their end. -/
def dropTrailingEmpty (lines : List Text) : List Text :=
  (lines.reverse.dropWhile (·.isEmpty)).reverse

/-- Whether the first line that is neither empty nor a comment is a document marker. -/
def startsWithMarker (lines : List Text) : Bool :=
  let isContent := fun line : Text =>
    !line.isEmpty && (Text.trimStart line).head? ≠ some '#'
  (lines.find? isContent).any "---".toList.isPrefixOf

/-- The written lines of a document: nothing is open any more, and there is a document marker. -/
def finishedLines (tracker : Tracker) : List Text :=
  let lines := dropTrailingEmpty tracker.flushShell.out
  if tracker.mode = .incremental && !startsWithMarker lines then "---".toList :: lines else lines

/-- The text of lines that are joined by line feeds, with one more at the end. -/
def joinLines (lines : List Text) : Text := List.intercalate ['\n'] lines ++ ['\n']

/-- The document that has been written. -/
def finish (tracker : Tracker) : Rebuilt where
  text := joinLines tracker.finishedLines
  ambiguities := tracker.flushShell.ambiguities

end Tracker

end PlaybookRepair
