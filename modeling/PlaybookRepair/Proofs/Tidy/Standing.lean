import PlaybookRepair.Proofs.Rebuild.Tokens
import PlaybookRepair.Proofs.Tidy.Line
import PlaybookRepair.Proofs.Tracker.Push

/-!
# Between the lines of a tidy document

Between two lines of a tidy document the tracker has written everything so far, with the open shell
block if there is one, and it has the sections open whose columns are those at which they are
written; a value or a script that is still open ends at the next line of the document's structure
(`Standing`). Such a line is therefore placed by its role with nothing but sections open
(`Standing.push_outer`). What each kind of line does then is stated for a run over lines with given
texts (`Leads`), and runs are put together line by line.
-/

namespace PlaybookRepair.Tidy

open Catalog (isModule isShellModule)
open InlineValue (isBlockIndicator)
open Tracker (shellLines suppliedTasks)

/-! ## States -/

/-- What is open in a play before its first list of tasks. -/
def inPlay : Nesting := { play := some 0 }

/-- What is open in a list of tasks before its first task. -/
def inSection : Nesting := { play := some 0, taskSection := some 2 }

/-- What is open in a task. -/
def inTask : FileKind → Nesting
  | .playbook => { play := some 0, taskSection := some 2, task := some 2 }
  | _ => { task := some 2 }

/-- The tracker that has written the lines and has nothing but sections open. -/
def resting (mode : RebuildMode) (kind : FileKind) (nesting : Nesting) (written : List Text)
    (lastKeyColumn : Option Nat) (taskAction : Option TaskAction) : Tracker where
  mode
  kind
  nesting
  out := written
  lastKeyColumn
  taskAction

/-- The value of the key ends at a line of the document's structure. -/
structure EndsOutside (mode : RebuildMode) (key : OpenKey) : Prop where
  mode : mode = .incremental
  sourceIndent : key.sourceIndent = 4
  literal : key.literal = false
  inner : ∀ inner, key.innerLiteral = some inner → 4 ≤ inner.sourceIndent

/-- With the open shell block the tracker has written the lines and has the sections open. An open
value and an open script end at a line of the document's structure. -/
structure Standing (mode : RebuildMode) (kind : FileKind) (nesting : Nesting) (written : List Text)
    (tracker : Tracker) : Prop where
  closed : ∃ openKey lastKeyColumn taskAction,
    tracker.flushShell =
        resting mode kind { nesting with openKey } written lastKeyColumn taskAction ∧
      ∀ key, openKey = some key → EndsOutside mode key
  shell : ∀ block, tracker.nesting.shell = some block →
    block.startIndent = 4 ∧ block.isBare = false

section

variable {mode : RebuildMode} {kind : FileKind} {nesting : Nesting} {written : List Text}
  {lastKeyColumn : Option Nat} {taskAction : Option TaskAction} {tracker : Tracker}
  {token : LineToken}

theorem standing_of_resting (noKey : nesting.openKey = none) (noShell : nesting.shell = none)
    (rests : tracker = resting mode kind nesting written lastKeyColumn taskAction) :
    Standing mode kind nesting written tracker := by
  obtain ⟨play, taskSection, task, openKey, shell⟩ := nesting
  cases noKey
  cases noShell
  cases rests
  exact ⟨⟨none, lastKeyColumn, taskAction, rfl, nofun⟩, nofun⟩

/-- Writing the open shell block does not change the surroundings of the next line. -/
theorem surroundings_flushShell (tracker : Tracker) (opens hosts : Bool) :
    tracker.flushShell.surroundings opens hosts = tracker.surroundings opens hosts := by
  unfold Tracker.flushShell
  split
  · unfold Tracker.closeShell
    dsimp only
    split <;> rfl
  · rfl

theorem Standing.surroundings (standing : Standing mode kind nesting written tracker)
    (opens hosts : Bool) :
    tracker.surroundings opens hosts =
      { kind
        playOpen := nesting.play.isSome
        taskIndent := nesting.task
        inTaskSection := nesting.taskSection.isSome
        previousOpensBlock := opens
        itemHasHosts := hosts
        useIndent := mode = .incremental } := by
  obtain ⟨_, _, _, closed, _⟩ := standing.closed
  rw [← surroundings_flushShell, closed]
  rfl

/-! ## Lines of the document's structure -/

/-- The line gives the document its structure and stands no deeper than the keys of tasks. -/
structure IsOuter (token : LineToken) : Prop where
  structural : token.role.isStructural
  column : token.indent ≤ 4
  dashed : token.dashed → token.indent < 4

theorem IsOuter.role_ne (outer : IsOuter token) : token.role ≠ .blank ∧ token.role ≠ .comment := by
  have structural := outer.structural
  constructor <;>
  · intro role
    rw [role] at structural
    cases structural

theorem IsOuter.accepts_eq_false (outer : IsOuter token) {block : ShellBlock}
    (start : block.startIndent = 4) (notBare : block.isBare = false) :
    block.accepts token = false := by
  have column : ¬ 4 < token.indent := Nat.not_lt.mpr outer.column
  unfold ShellBlock.accepts
  rw [notBare, start, outer.structural, decide_eq_false column]
  split <;> rfl

theorem IsOuter.nests_eq_false (outer : IsOuter token) {key : OpenKey}
    (ends : EndsOutside tracker.mode key) :
    tracker.nestsUnder (Tracker.keyAt key token) token = false := by
  have column := outer.column
  have noInner : (Tracker.keyAt key token).innerLiteral = none := by
    cases inner : key.innerLiteral with
    | none => rw [Tracker.keyAt, inner, Option.filter_none]
    | some literal =>
        have deep := ends.inner literal inner
        rw [Tracker.keyAt, inner, Option.filter_some, if_neg]
        simp only [decide_eq_true_eq]
        omega
  have sourceIndent : (Tracker.keyAt key token).sourceIndent = 4 := ends.sourceIndent
  have literal : (Tracker.keyAt key token).literal = false := ends.literal
  rw [Tracker.nestsUnder, literal, noInner, ends.mode, sourceIndent]
  cases dashed : token.dashed with
  | true =>
      have left := outer.dashed dashed
      simp only [Bool.false_eq_true, ↓reduceIte, Option.isSome_none, Bool.or_eq_false_iff,
        decide_eq_false_iff_not, Bool.and_eq_false_iff]
      omega
  | false =>
      simp only [Bool.false_eq_true, ↓reduceIte, Option.isSome_none, Bool.and_false,
        Bool.false_and, Bool.or_false, decide_eq_false_iff_not]
      omega

theorem IsOuter.takeNested?_eq_none (outer : IsOuter token)
    (ends : ∀ key, tracker.nesting.openKey = some key → EndsOutside tracker.mode key) :
    tracker.takeNested? token = none := by
  cases isOpen : tracker.nesting.openKey with
  | none => exact Tracker.takeNested?_of_closed isOpen
  | some key => exact Tracker.takeNested?_of_apart isOpen (outer.nests_eq_false (ends key isOpen))

/-- **Lines of the document's structure.** Such a line ends whatever value or script is open and is
placed by its role. -/
theorem Standing.push_outer (standing : Standing mode kind nesting written tracker)
    (outer : IsOuter token) :
    ∃ lastKeyColumn taskAction, tracker.push token =
      ((resting mode kind { nesting with openKey := none } written lastKeyColumn
        taskAction).leave token).place token := by
  obtain ⟨openKey, lastKeyColumn, taskAction, closed, ends⟩ := standing.closed
  have outside : tracker.extendShell? token = none := by
    cases shell : tracker.nesting.shell with
    | none => exact Tracker.extendShell?_of_none shell
    | some block =>
        obtain ⟨start, notBare⟩ := standing.shell block shell
        exact Tracker.extendShell?_of_rejects shell outer.role_ne.1
          (outer.accepts_eq_false start notBare)
  have apart : tracker.flushShell.takeNested? token = none := by
    refine outer.takeNested?_eq_none ?_
    rw [closed]
    exact ends
  refine ⟨lastKeyColumn, taskAction, ?_⟩
  rw [Tracker.push_of_outside outside,
    Tracker.pushOutsideShell_of_apart outer.role_ne.1 apart, closed]
  unfold Tracker.leave Tracker.leaveKey
  rw [if_neg outer.role_ne.2, if_neg outer.role_ne.2]
  rfl

/-! ## Headers -/

/-- Where a task may start, with the line that is supplied before it. -/
inductive TaskStart : FileKind → Nesting → List Text → Prop
  | first : TaskStart .taskList {} []
  | next (kind : FileKind) : TaskStart kind (inTask kind) []
  | inSection : TaskStart .playbook inSection []
  | supplied : TaskStart .playbook inPlay [suppliedTasks]

/-- Where a play may start: at the start of a playbook or after the tasks of another play. -/
inductive PlayStart : Nesting → Prop
  | first : PlayStart {}
  | next : PlayStart (inTask .playbook)

/-- A header leaves no section by its column. -/
theorem Standing.push_header (standing : Standing mode kind nesting written tracker)
    (outer : IsOuter token) (header : token.role.isHeader) :
    ∃ lastKeyColumn taskAction, tracker.push token =
      (resting mode kind { nesting with openKey := none } written lastKeyColumn
        taskAction).place token := by
  obtain ⟨lastKeyColumn, taskAction, pushed⟩ := standing.push_outer outer
  have noDedent (left : Tracker) : left.closeByDedent token = left := by
    rw [Tracker.closeByDedent, if_pos (by rw [header]; simp)]
  refine ⟨lastKeyColumn, taskAction, ?_⟩
  rw [pushed, Tracker.leave]
  rw [noDedent, ite_self, Tracker.leaveKey, if_neg outer.role_ne.2]
  rfl

/-- A header of a task is written as a list item at the column of tasks, after the key of its list
if that is missing. -/
theorem Standing.push_taskHeader {supplied : List Text} {dashed : Bool}
    (standing : Standing mode kind nesting written tracker)
    (start : TaskStart kind nesting supplied) (role : token.role = .taskHeader dashed)
    (column : token.indent = if token.dashed then 2 else 4) (inline : token.opensBlock = false) :
    Standing mode kind (inTask kind)
      (written ++ supplied ++ [indented 2 (listItemText token.keyedText)])
      (tracker.push token) := by
  have outer : IsOuter token := by
    refine ⟨by rw [role]; rfl, ?_, fun dashed => ?_⟩
    · rw [column]
      split <;> decide
    · rw [column, if_pos dashed]
      decide
  obtain ⟨lastKeyColumn, taskAction, pushed⟩ := standing.push_header outer (by rw [role]; rfl)
  have sourceIndent : (if token.dashed then token.indent else token.indent - indentStep) = 2 := by
    rw [column]
    split <;> rfl
  have placed : tracker.push token = resting mode kind (inTask kind)
      (written ++ supplied ++ [indented 2 (listItemText token.keyedText)]) (some 4) none := by
    rw [pushed, Tracker.place, role]
    dsimp only
    rw [Tracker.pushTaskHeader, sourceIndent, Tracker.emitHeader, Tracker.afterKey, inline]
    cases start with
    | first =>
        rw [List.append_nil]
        rfl
    | next =>
        rw [List.append_nil]
        cases kind <;> rfl
    | inSection =>
        rw [List.append_nil]
        rfl
    | supplied => rfl
  refine standing_of_resting ?_ ?_ placed <;> cases kind <;> rfl

/-- A header of a play is written as a list item at the margin. -/
theorem Standing.push_playHeader (standing : Standing mode .playbook nesting written tracker)
    (start : PlayStart nesting) (role : token.role = .playHeader) (column : token.indent = 0)
    (inline : token.opensBlock = false) :
    Standing mode .playbook inPlay (written ++ [indented 0 (listItemText token.keyedText)])
      (tracker.push token) := by
  have outer : IsOuter token :=
    ⟨by rw [role]; rfl, by rw [column]; decide, fun _ => by rw [column]; decide⟩
  obtain ⟨lastKeyColumn, taskAction, pushed⟩ := standing.push_header outer (by rw [role]; rfl)
  have placed : tracker.push token = resting mode .playbook inPlay
      (written ++ [indented 0 (listItemText token.keyedText)]) (some 2) taskAction := by
    rw [pushed, Tracker.place, role]
    dsimp only
    rw [Tracker.pushPlayHeader, Tracker.emitHeader, Tracker.afterKey, inline, column]
    cases start <;> rfl
  exact standing_of_resting rfl rfl placed

/-! ## Keywords of plays -/

/-- A keyword of a play leaves the open list of tasks, by its column or by its role. -/
theorem Standing.push_playKeyword (standing : Standing mode .playbook nesting written tracker)
    (isOpen : nesting = inPlay ∨ nesting = inTask .playbook) (role : token.role = .playAttribute)
    (column : token.indent = 2) (notDashed : token.dashed = false) :
    ∃ lastKeyColumn taskAction, tracker.push token =
      if token.key.any Catalog.isTaskSection && token.opensBlock &&
          !isBlockIndicator token.value then
        resting mode .playbook inSection (written ++ [indented 2 token.keyedText]) lastKeyColumn
          taskAction
      else
        (resting mode .playbook inPlay (written ++ [indented 2 token.keyedText]) lastKeyColumn
          taskAction).afterKey token 2 := by
  have outer : IsOuter token :=
    ⟨by rw [role]; rfl, by rw [column]; decide, fun _ => by rw [column]; decide⟩
  obtain ⟨lastKeyColumn, taskAction, pushed⟩ := standing.push_outer outer
  have left : (resting mode .playbook { nesting with openKey := none } written lastKeyColumn
      taskAction).leave token = resting mode .playbook inPlay written lastKeyColumn taskAction ∨
      (resting mode .playbook { nesting with openKey := none } written lastKeyColumn
        taskAction).leave token =
          resting mode .playbook (inTask .playbook) written lastKeyColumn taskAction := by
    unfold Tracker.leave Tracker.leaveKey Tracker.closeByDedent Tracker.leavesTask
      Tracker.leavesSection
    rw [role, column, notDashed]
    rcases isOpen with rfl | rfl
    · left
      cases mode <;> rfl
    · -- Only the incremental mode leaves the tasks by the column; the role does it in the other.
      cases mode with
      | incremental => exact .inl rfl
      | canonical => exact .inr rfl
  refine ⟨some 2, taskAction, ?_⟩
  rw [pushed, Tracker.place, role]
  dsimp only
  rcases left with left | left <;>
  · rw [left, Tracker.pushPlayAttribute, if_neg (by exact Bool.false_ne_true), column]
    dsimp only
    split <;> rfl

/-- Directly below the key of a list of tasks a name without its list marker opens a task, which
gets the marker with this line. -/
theorem push_nameBelowSection
    (rests : tracker = resting mode .playbook inSection written lastKeyColumn taskAction)
    (role : token.role = .keyValue) (column : token.indent = 4)
    (inline : token.opensBlock = false) :
    Standing mode .playbook (inTask .playbook)
      (written ++ [indented 2 (listItemText token.keyedText)]) (tracker.push token) := by
  subst rests
  have notBlank : token.role ≠ .blank := by
    rw [role]
    nofun
  have left : (resting mode .playbook inSection written lastKeyColumn taskAction).leave token =
      resting mode .playbook inSection written lastKeyColumn taskAction := by
    unfold Tracker.leave Tracker.leaveKey Tracker.closeByDedent Tracker.leavesTask
      Tracker.leavesSection
    rw [role, column]
    cases mode <;> rfl
  have placed : (resting mode .playbook inSection written lastKeyColumn taskAction).push token =
      resting mode .playbook (inTask .playbook)
        (written ++ [indented 2 (listItemText token.keyedText)]) (some 4) none := by
    rw [Tracker.push_of_noShell rfl, Tracker.pushOutsideShell_of_apart notBlank rfl, left, Tracker.place, role]
    dsimp only
    rw [Tracker.pushKeyValue, if_neg (by exact Bool.false_ne_true), if_pos (by rfl), column,
      Tracker.emitTaskKey, Tracker.afterKey, inline]
    rfl
  exact standing_of_resting rfl rfl placed

/-! ## Keys of tasks -/

section TaskKeys

variable (standing : Standing mode kind (inTask kind) written tracker) {key : TaskKey}
  (role : token.role = key.role) (column : token.indent = 4) (notDashed : token.dashed = false)
include standing role column notDashed

/-- A key of a task stays in the task. -/
theorem Standing.push_taskKey :
    ∃ lastKeyColumn taskAction, tracker.push token =
      (resting mode kind (inTask kind) written lastKeyColumn taskAction).place token := by
  have isEither : token.role = .moduleInvocation ∨ token.role = .taskAttribute := by
    rw [role, TaskKey.role]
    split
    · exact .inl rfl
    · exact .inr rfl
  have outer : IsOuter token := by
    refine ⟨?_, by rw [column], fun dashed => ?_⟩
    · rcases isEither with isRole | isRole <;>
      · rw [isRole]
        rfl
    · rw [notDashed] at dashed
      cases dashed
  obtain ⟨lastKeyColumn, taskAction, pushed⟩ := standing.push_outer outer
  refine ⟨lastKeyColumn, taskAction, ?_⟩
  have left : (resting mode kind { inTask kind with openKey := none } written lastKeyColumn
      taskAction).leave token =
        resting mode kind (inTask kind) written lastKeyColumn taskAction := by
    unfold Tracker.leave Tracker.leaveKey Tracker.closeByDedent Tracker.leavesTask
      Tracker.leavesSection
    rw [column]
    rcases isEither with isRole | isRole <;>
    · rw [isRole]
      cases mode <;> cases kind <;> rfl
  rw [pushed, left]

/-- A key that runs no script is written at its column, and is open if its value is on the lines
below. -/
theorem Standing.push_plainKey (hasKey : token.key = some key.text)
    (noScript : isShellModule key.text = false) :
    ∃ taskAction, tracker.push token =
      resting mode kind
        { inTask kind with
          openKey :=
            if token.opensBlock then
              some { sourceIndent := 4, depth := 4, literal := isBlockIndicator token.value }
            else none }
        (written ++ [indented 4 token.keyedText]) (some 4) taskAction := by
  obtain ⟨lastKeyColumn, taskAction, pushed⟩ := standing.push_taskKey role column notDashed
  have inTask : (resting mode kind (inTask kind) written lastKeyColumn
      taskAction).nesting.task.isSome = true := by
    cases kind <;> rfl
  have keyColumn : token.keyColumn = 4 := by
    rw [LineToken.keyColumn, if_neg (by simp [notDashed]), column]
  have emitted : (resting mode kind (Tidy.inTask kind) written lastKeyColumn
      taskAction).emitTaskKey token = resting mode kind
        { Tidy.inTask kind with
          openKey :=
            if token.opensBlock then
              some { sourceIndent := 4, depth := 4, literal := isBlockIndicator token.value }
            else none }
        (written ++ [indented 4 token.keyedText]) (some 4) taskAction := by
    rw [Tracker.emitTaskKey, Tracker.afterKey, keyColumn]
    cases kind <;> rfl
  by_cases named : isModule key.text
  · refine ⟨some .other, ?_⟩
    rw [pushed, Tracker.place, role, TaskKey.role, if_pos named]
    dsimp only
    rw [Tracker.pushModule, if_neg (by simp [hasKey, noScript]),
      if_pos (by rw [Tracker.canHoldTask, inTask]; rfl), Tracker.ensureTask, if_pos inTask, emitted]
    rfl
  · refine ⟨taskAction, ?_⟩
    rw [pushed, Tracker.place, role, TaskKey.role, if_neg named]
    dsimp only
    rw [Tracker.pushTaskAttribute, if_pos inTask, emitted]

/-- The key of a module that runs a script opens a shell block. -/
theorem Standing.push_shellKey (hasKey : token.key = some key.text)
    (isScript : isShellModule key.text) :
    ∃ lastKeyColumn taskAction, tracker.push token =
      resting mode kind { inTask kind with shell := some (.ofModule token) } written lastKeyColumn
        taskAction := by
  obtain ⟨lastKeyColumn, taskAction, pushed⟩ := standing.push_taskKey role column notDashed
  refine ⟨lastKeyColumn, taskAction, ?_⟩
  have named : isModule key.text := by
    have listed : ∀ name ∈ Catalog.shellModules, Catalog.modules.contains name := by decide +kernel
    exact listed _ (List.contains_iff_mem.mp isScript)
  rw [pushed, Tracker.place, role, TaskKey.role, if_pos named]
  dsimp only
  rw [Tracker.pushModule, if_pos (by simp [hasKey, isScript])]
  cases kind <;> rfl

end TaskKeys

/-- A shell block that has just opened in a task is written at the column of the task's keys. -/
theorem standing_of_shell {block : ShellBlock} {lines : List Text}
    (opened : tracker = resting mode kind { inTask kind with shell := some block } written
      lastKeyColumn taskAction)
    (start : block.startIndent = 4) (notBare : block.isBare = false)
    (noBlanks : block.pendingBlanks = 0)
    (shown : ∀ start, shellLines mode block { start, length := 0, depth := 4, dashed := false } =
      lines) :
    Standing mode kind (inTask kind) (written ++ lines) tracker := by
  subst opened
  have place : (resting mode kind { inTask kind with shell := some block } written lastKeyColumn
      taskAction).shellPlacement =
        { start := written.length, length := 0, depth := 4, dashed := false } := by
    cases kind <;> rfl
  have replaced : written.take written.length ++ lines ++ written.drop (written.length + 0) =
      written ++ lines := by
    rw [List.take_length, Nat.add_zero, List.drop_length, List.append_nil]
  refine ⟨⟨none, some 4, some (.shell block
    { start := written.length, length := lines.length, depth := 4, dashed := false }), ?_, nofun⟩,
    fun other isOpen => ?_⟩
  · rw [Tracker.flushShell_of_some rfl]
    unfold Tracker.closeShell
    dsimp only
    have sameMode : (resting mode kind { inTask kind with shell := some block } written
        lastKeyColumn taskAction).mode = mode := rfl
    rw [place, if_neg (by simp [noBlanks]), notBare, sameMode, shown written.length]
    unfold Tracker.replaceLines
    dsimp only [resting]
    rw [replaced]
    cases kind <;> rfl
  · obtain rfl : block = other := Option.some.inj isOpen
    exact ⟨start, notBare⟩

end

end PlaybookRepair.Tidy
