import PlaybookRepair.Proofs.Tidy.Run

/-!
# Recovering lost structure

A tidy document may lose some of its structure: tasks their list markers, and plays the key of their
list of tasks. Nothing else of the document changes. Every such document is rebuilt as it was before
the loss (`rebuild_damaged`). A task without its marker is a header like any other, except directly
below the key of its list, where its name opens a task that has yet to get its marker; a list
without its key is opened again by its first task.
-/

namespace PlaybookRepair.Tidy

open Rebuild (State)
open Tracker (joinLines suppliedTasks)

/-! ## Documents and their damage -/

/-- A task with its keys. In the damaged document its list marker may be lost. -/
structure InlineTask where
  name : Value
  keys : List (TaskKey × Value)
  markerLost : Bool

/-- A list of tasks of a play; it has at least one task. -/
structure InlineSection where
  key : SectionKey
  first : InlineTask
  rest : List InlineTask

/-- A play with its keywords and its lists of tasks, of which it has at least one. In the damaged
document the key of the first list may be lost, if that is the plain list of tasks and its first
task still has its marker. -/
structure InlinePlay where
  hosts : Value
  keys : List (PlayKey × Value)
  first : InlineSection
  rest : List InlineSection
  keyLost : Bool
  recoverable : keyLost = true →
    first.key.text = "tasks".toList ∧ first.first.markerLost = false

/-- A document of tasks or of plays. -/
inductive InlineDocument
  | tasks (items : List InlineTask)
  | plays (items : List InlinePlay)

namespace InlineTask

def keyLines (task : InlineTask) : List Text :=
  task.keys.flatMap fun (key, value) => [(Content.pair key.named value.toContent).line 4]

def lines (task : InlineTask) : List Text := (nameContent task.name).item.line 2 :: task.keyLines

def damagedLines (task : InlineTask) : List Text :=
  (if task.markerLost then (nameContent task.name).line 4
    else (nameContent task.name).item.line 2) :: task.keyLines

end InlineTask

namespace InlineSection

def keyLine (taskList : InlineSection) : Text := (Content.key taskList.key.named).line 2

def lines (taskList : InlineSection) : List Text :=
  taskList.keyLine :: (taskList.first.lines ++ taskList.rest.flatMap InlineTask.lines)

/-- The tasks of the damaged list, without its key. -/
def damagedTasks (taskList : InlineSection) : List Text :=
  taskList.first.damagedLines ++ taskList.rest.flatMap InlineTask.damagedLines

def damagedLines (taskList : InlineSection) : List Text := taskList.keyLine :: taskList.damagedTasks

end InlineSection

namespace InlinePlay

def keyLines (play : InlinePlay) : List Text :=
  play.keys.flatMap fun (key, value) => [(Content.pair key.named value.toContent).line 2]

def headLines (play : InlinePlay) : List Text :=
  (hostsContent play.hosts).item.line 0 :: play.keyLines

def lines (play : InlinePlay) : List Text :=
  play.headLines ++ (play.first.lines ++ play.rest.flatMap InlineSection.lines)

def damagedLines (play : InlinePlay) : List Text :=
  play.headLines ++
    ((if play.keyLost then play.first.damagedTasks else play.first.damagedLines) ++
      play.rest.flatMap InlineSection.damagedLines)

end InlinePlay

namespace InlineDocument

def kind : InlineDocument → FileKind
  | .tasks _ => .taskList
  | .plays _ => .playbook

def lines : InlineDocument → List Text
  | .tasks items => marker :: items.flatMap InlineTask.lines
  | .plays items => marker :: items.flatMap InlinePlay.lines

def damagedLines : InlineDocument → List Text
  | .tasks items => marker :: items.flatMap InlineTask.damagedLines
  | .plays items => marker :: items.flatMap InlinePlay.damagedLines

end InlineDocument

/-! ## Runs over damaged documents -/

section

variable {mode : RebuildMode} {kind : FileKind} {nesting : Nesting} {written : List Text}

theorem leads_keyLines (task : InlineTask) :
    Leads kind (Settled mode kind (inTask kind) written) task.keyLines
      (Settled mode kind (inTask kind) (written ++ task.keyLines)) :=
  leads_flatMap (Settled mode kind (inTask kind))
    (fun (key, value) _ => (leads_taskKey key value).weaken fun _ settled => settled.1) _ _

/-- Whether its marker is lost or not, a task is written with it. -/
theorem leads_task (start : TaskStart kind nesting [])
    (mayStart : nesting.taskSection.isSome = true ∨ kind ≠ .playbook) (task : InlineTask) :
    Leads kind (Settled mode kind nesting written) task.damagedLines
      (Settled mode kind (inTask kind) (written ++ task.lines)) := by
  have header : Leads kind (Settled mode kind nesting written)
      [if task.markerLost then (nameContent task.name).line 4
        else (nameContent task.name).item.line 2]
      (Settled mode kind (inTask kind) (written ++ [(nameContent task.name).item.line 2])) := by
    split
    · exact leads_bareName start mayStart task.name
    · exact (leads_taskItem start task.name).weaken fun _ settled => settled.1
  have whole := header.trans (leads_keyLines task)
  rwa [List.append_assoc] at whole

/-- The tracker stands where a task of a list of tasks may start. -/
def AtTask (mode : RebuildMode) (kind : FileKind) (written : List Text) (state : State) : Prop :=
  ∃ nesting, TaskStart kind nesting [] ∧ (nesting.taskSection.isSome = true ∨ kind ≠ .playbook) ∧
    Settled mode kind nesting written state

theorem mayStart_next (kind : FileKind) :
    (inTask kind).taskSection.isSome = true ∨ kind ≠ .playbook := by
  cases kind
  · exact .inl rfl
  all_goals exact .inr nofun

theorem leads_tasks (tasks : List InlineTask) :
    Leads kind (AtTask mode kind written) (tasks.flatMap InlineTask.damagedLines)
      (AtTask mode kind (written ++ tasks.flatMap InlineTask.lines)) := by
  refine leads_flatMap (AtTask mode kind) (fun task written => ?_) tasks written
  rintro state entries ⟨nesting, start, mayStart, settled⟩ raws noHosts
  exact ⟨inTask kind, .next kind, mayStart_next kind,
    leads_task start mayStart task state entries settled raws noHosts⟩

/-- The first task of a list, directly below the key of the list. -/
theorem leads_firstTask (task : InlineTask) :
    Leads .playbook (Opened mode written) task.damagedLines
      (Settled mode .playbook (inTask .playbook) (written ++ task.lines)) := by
  have header : Leads .playbook (Opened mode written)
      [if task.markerLost then (nameContent task.name).line 4
        else (nameContent task.name).item.line 2]
      (Settled mode .playbook (inTask .playbook)
        (written ++ [(nameContent task.name).item.line 2])) := by
    split
    · exact leads_nameBelowSection task.name
    · exact (leads_taskItem .inSection task.name).weaken
        fun _ ⟨⟨_, _, rests⟩, _⟩ => standing_of_resting rfl rfl rests
  have whole := header.trans (leads_keyLines task)
  rwa [List.append_assoc] at whole

/-- The other tasks of a list. -/
theorem leads_laterTasks (tasks : List InlineTask) :
    Leads .playbook (Settled mode .playbook (inTask .playbook) written)
      (tasks.flatMap InlineTask.damagedLines)
      (Settled mode .playbook (inTask .playbook) (written ++ tasks.flatMap InlineTask.lines)) :=
  leads_flatMap (Settled mode .playbook (inTask .playbook))
    (fun task _ => leads_task (.next .playbook) (.inl rfl) task) tasks written

/-! ## Plays -/

theorem leads_inlineSection (isOpen : nesting = inPlay ∨ nesting = inTask .playbook)
    (taskList : InlineSection) :
    Leads .playbook (Settled mode .playbook nesting written) taskList.damagedLines
      (Settled mode .playbook (inTask .playbook) (written ++ taskList.lines)) := by
  have key : Leads .playbook (Settled mode .playbook nesting written) [taskList.keyLine]
      (Opened mode (written ++ [taskList.keyLine])) :=
    (leads_section isOpen taskList.key).weaken fun _ settled => settled.1
  have whole := (key.trans (leads_firstTask taskList.first)).trans (leads_laterTasks taskList.rest)
  simp only [List.append_assoc] at whole
  exact whole

/-- A list that has lost its key is opened again by its first task. -/
theorem leads_lostSection (taskList : InlineSection)
    (isPlain : taskList.key.text = "tasks".toList) (hasMarker : taskList.first.markerLost = false) :
    Leads .playbook (Settled mode .playbook inPlay written) taskList.damagedTasks
      (Settled mode .playbook (inTask .playbook) (written ++ taskList.lines)) := by
  -- The key that the tracker supplies is the one that was lost.
  have supplied : suppliedTasks = taskList.keyLine := by
    rw [InlineSection.keyLine, Content.line]
    change _ = indented 2 (taskList.key.text ++ [':'])
    rw [isPlain]
    rfl
  have header : Leads .playbook (Settled mode .playbook inPlay written)
      [if taskList.first.markerLost then (nameContent taskList.first.name).line 4
        else (nameContent taskList.first.name).item.line 2]
      (Settled mode .playbook (inTask .playbook)
        (written ++ [suppliedTasks] ++ [(nameContent taskList.first.name).item.line 2])) := by
    rw [hasMarker]
    exact (leads_suppliedTaskItem .supplied taskList.first.name).weaken fun _ settled => settled.1
  have whole := (header.trans (leads_keyLines taskList.first)).trans
    (leads_laterTasks taskList.rest)
  rw [supplied] at whole
  simp only [List.append_assoc] at whole
  exact whole

/-- The tracker stands where a play may start. -/
def AtPlay (mode : RebuildMode) (written : List Text) (state : State) : Prop :=
  ∃ nesting, PlayStart nesting ∧ Settled mode .playbook nesting written state

theorem leads_headLines (start : PlayStart nesting) (play : InlinePlay) :
    Leads .playbook (Settled mode .playbook nesting written) play.headLines
      (Settled mode .playbook inPlay (written ++ play.headLines)) := by
  have header : Leads .playbook (Settled mode .playbook nesting written)
      [(hostsContent play.hosts).item.line 0] (Settled mode .playbook inPlay
        (written ++ [(hostsContent play.hosts).item.line 0])) :=
    (leads_playItem start play.hosts).weaken fun _ settled => settled.1
  have keys (written : List Text) : Leads .playbook (Settled mode .playbook inPlay written)
      play.keyLines (Settled mode .playbook inPlay (written ++ play.keyLines)) :=
    leads_flatMap (Settled mode .playbook inPlay)
      (fun (key, value) _ => (leads_playKey key value).weaken fun _ settled => settled.1) _ _
  have whole := header.trans (keys _)
  rwa [List.append_assoc] at whole

theorem leads_play (play : InlinePlay) :
    Leads .playbook (AtPlay mode written) play.damagedLines
      (AtPlay mode (written ++ play.lines)) := by
  rintro state entries ⟨nesting, start, settled⟩ raws noHosts
  have first : Leads .playbook (Settled mode .playbook inPlay (written ++ play.headLines))
      (if play.keyLost then play.first.damagedTasks else play.first.damagedLines)
      (Settled mode .playbook (inTask .playbook)
        (written ++ play.headLines ++ play.first.lines)) := by
    split
    · next lost =>
        obtain ⟨isPlain, hasMarker⟩ := play.recoverable lost
        exact leads_lostSection play.first isPlain hasMarker
    · exact leads_inlineSection (.inl rfl) play.first
  have rest := leads_flatMap (Settled mode .playbook (inTask .playbook))
    (fun taskList _ => leads_inlineSection (.inr rfl) taskList) play.rest
    (written ++ play.headLines ++ play.first.lines)
  have whole := (leads_headLines start play).trans (first.trans rest)
  simp only [List.append_assoc] at whole
  exact ⟨_, .next, whole state entries settled raws noHosts⟩

theorem leads_plays (plays : List InlinePlay) :
    Leads .playbook (AtPlay mode written) (plays.flatMap InlinePlay.damagedLines)
      (AtPlay mode (written ++ plays.flatMap InlinePlay.lines)) :=
  leads_flatMap (AtPlay mode) (fun play _ => leads_play play) plays written

end

/-! ## Lines of documents -/

/-- A line of a document: it takes up one line, is not empty, and is no `hosts` key without a list
marker. -/
structure IsDocumentLine (text : Text) : Prop where
  isLine : text.IsLine ∧ text.getLast? ≠ some '\r'
  notEmpty : text ≠ []
  noHosts : NoHosts text

theorem Content.isDocumentLine {content : Content} {column : Nat}
    (noHosts : NoHosts (content.line column)) : IsDocumentLine (content.line column) where
  isLine := content.isLine_line column
  notEmpty := by
    rw [content.line_eq]
    exact List.append_ne_nil_of_right_ne_nil _ content.notEmpty
  noHosts := noHosts

section

variable {key : Text} (named : KeyedLine.isName key) (column : Nat)

theorem isDocumentLine_item (value : Value) :
    IsDocumentLine ((Content.pair named value.toContent).item.line column) := by
  refine Content.isDocumentLine fun line raw notDashed => ?_
  rw [facts_item named (Content.reads raw).2] at notDashed
  cases notDashed

theorem hasKey_of_ne {facts : LineFacts} (hasKey : facts.key = some key)
    (noHosts : key ≠ "hosts".toList) : facts.hasKey "hosts" = false := by
  rw [LineFacts.hasKey, hasKey]
  simpa using noHosts

theorem isDocumentLine_pair (noHosts : key ≠ "hosts".toList) (value : Value) :
    IsDocumentLine ((Content.pair named value.toContent).line column) := by
  refine Content.isDocumentLine fun line raw _ => hasKey_of_ne ?_ noHosts
  rw [facts_pair named (Content.reads raw).2]

theorem isDocumentLine_key (noHosts : key ≠ "hosts".toList) :
    IsDocumentLine ((Content.key named).line column) := by
  refine Content.isDocumentLine fun line raw _ => hasKey_of_ne ?_ noHosts
  rw [facts_key named (Content.reads raw).2]

end

theorem PlayKey.isDocumentLine (key : PlayKey) (value : Value) :
    IsDocumentLine ((Content.pair key.named value.toContent).line 2) :=
  isDocumentLine_pair key.named 2 key.notHosts value

theorem isDocumentLine_marker : IsDocumentLine marker where
  isLine := by decide
  notEmpty := by decide
  noHosts := by
    rintro ⟨number, _⟩ rfl _
    rfl

theorem InlineTask.isDocumentLine {task : InlineTask} {text : Text} (member : text ∈ task.lines) :
    IsDocumentLine text := by
  rcases List.mem_cons.mp member with rfl | isKey
  · exact isDocumentLine_item isName_name 2 task.name
  · obtain ⟨⟨key, value⟩, _, isLine⟩ := List.mem_flatMap.mp isKey
    rw [List.mem_singleton.mp isLine]
    exact isDocumentLine_pair key.named 4 key.ne_hosts value

theorem InlineSection.isDocumentLine {taskList : InlineSection} {text : Text}
    (member : text ∈ taskList.lines) : IsDocumentLine text := by
  rcases List.mem_cons.mp member with rfl | isTask
  · exact isDocumentLine_key taskList.key.named 2 taskList.key.ne_hosts
  · rcases List.mem_append.mp isTask with isFirst | isLater
    · exact InlineTask.isDocumentLine isFirst
    · obtain ⟨task, _, isLine⟩ := List.mem_flatMap.mp isLater
      exact InlineTask.isDocumentLine isLine

theorem InlinePlay.isDocumentLine {play : InlinePlay} {text : Text} (member : text ∈ play.lines) :
    IsDocumentLine text := by
  rcases List.mem_append.mp member with isHead | isSection
  · rcases List.mem_cons.mp isHead with rfl | isKey
    · exact isDocumentLine_item isName_hosts 0 play.hosts
    · obtain ⟨⟨key, value⟩, _, isLine⟩ := List.mem_flatMap.mp isKey
      rw [List.mem_singleton.mp isLine]
      exact key.isDocumentLine value
  · rcases List.mem_append.mp isSection with isFirst | isLater
    · exact InlineSection.isDocumentLine isFirst
    · obtain ⟨taskList, _, isLine⟩ := List.mem_flatMap.mp isLater
      exact InlineSection.isDocumentLine isLine

theorem InlineDocument.isDocumentLine {document : InlineDocument} {text : Text}
    (member : text ∈ document.lines) : IsDocumentLine text := by
  cases document with
  | tasks items =>
      rcases List.mem_cons.mp member with rfl | isTask
      · exact isDocumentLine_marker
      · obtain ⟨task, _, isLine⟩ := List.mem_flatMap.mp isTask
        exact InlineTask.isDocumentLine isLine
  | plays items =>
      rcases List.mem_cons.mp member with rfl | isPlay
      · exact isDocumentLine_marker
      · obtain ⟨play, _, isLine⟩ := List.mem_flatMap.mp isPlay
        exact InlinePlay.isDocumentLine isLine

/-- The lines of a damaged document are those of the document, or names without their marker. -/
theorem InlineTask.mem_damagedLines {task : InlineTask} {text : Text}
    (member : text ∈ task.damagedLines) :
    text ∈ task.lines ∨ ∃ name, text = (nameContent name).line 4 := by
  rcases List.mem_cons.mp member with rfl | isKey
  · split
    · exact .inr ⟨task.name, rfl⟩
    · exact .inl List.mem_cons_self
  · exact .inl (List.mem_cons_of_mem _ isKey)

theorem InlineSection.mem_damagedTasks {taskList : InlineSection} {text : Text}
    (member : text ∈ taskList.damagedTasks) :
    text ∈ taskList.lines ∨ ∃ name, text = (nameContent name).line 4 := by
  rcases List.mem_append.mp member with isFirst | isLater
  · exact (InlineTask.mem_damagedLines isFirst).imp_left fun kept =>
      List.mem_cons_of_mem _ (List.mem_append_left _ kept)
  · obtain ⟨task, isTask, isLine⟩ := List.mem_flatMap.mp isLater
    exact (InlineTask.mem_damagedLines isLine).imp_left fun kept =>
      List.mem_cons_of_mem _ (List.mem_append_right _ (List.mem_flatMap.mpr ⟨task, isTask, kept⟩))

theorem InlineSection.mem_damagedLines {taskList : InlineSection} {text : Text}
    (member : text ∈ taskList.damagedLines) :
    text ∈ taskList.lines ∨ ∃ name, text = (nameContent name).line 4 := by
  rcases List.mem_cons.mp member with rfl | isTask
  · exact .inl List.mem_cons_self
  · exact InlineSection.mem_damagedTasks isTask

theorem InlinePlay.mem_damagedLines {play : InlinePlay} {text : Text}
    (member : text ∈ play.damagedLines) :
    text ∈ play.lines ∨ ∃ name, text = (nameContent name).line 4 := by
  rcases List.mem_append.mp member with isHead | isSection
  · exact .inl (List.mem_append_left _ isHead)
  · rcases List.mem_append.mp isSection with isFirst | isLater
    · have kept : text ∈ play.first.lines ∨ ∃ name, text = (nameContent name).line 4 := by
        split at isFirst
        · exact InlineSection.mem_damagedTasks isFirst
        · exact InlineSection.mem_damagedLines isFirst
      exact kept.imp_left fun kept => List.mem_append_right _ (List.mem_append_left _ kept)
    · obtain ⟨taskList, isList, isLine⟩ := List.mem_flatMap.mp isLater
      exact (InlineSection.mem_damagedLines isLine).imp_left fun kept =>
        List.mem_append_right _ (List.mem_append_right _
          (List.mem_flatMap.mpr ⟨taskList, isList, kept⟩))

theorem InlineDocument.mem_damagedLines {document : InlineDocument} {text : Text}
    (member : text ∈ document.damagedLines) :
    text ∈ document.lines ∨ ∃ name, text = (nameContent name).line 4 := by
  cases document with
  | tasks items =>
      rcases List.mem_cons.mp member with rfl | isTask
      · exact .inl List.mem_cons_self
      · obtain ⟨task, isItem, isLine⟩ := List.mem_flatMap.mp isTask
        exact (InlineTask.mem_damagedLines isLine).imp_left fun kept =>
          List.mem_cons_of_mem _ (List.mem_flatMap.mpr ⟨task, isItem, kept⟩)
  | plays items =>
      rcases List.mem_cons.mp member with rfl | isPlay
      · exact .inl List.mem_cons_self
      · obtain ⟨play, isItem, isLine⟩ := List.mem_flatMap.mp isPlay
        exact (InlinePlay.mem_damagedLines isLine).imp_left fun kept =>
          List.mem_cons_of_mem _ (List.mem_flatMap.mpr ⟨play, isItem, kept⟩)

theorem InlineDocument.isDocumentLine_damaged {document : InlineDocument} {text : Text}
    (member : text ∈ document.damagedLines) : IsDocumentLine text := by
  rcases InlineDocument.mem_damagedLines member with kept | ⟨name, rfl⟩
  · exact InlineDocument.isDocumentLine kept
  · exact isDocumentLine_pair isName_name 4 (by decide) name

/-- **Lost structure is recovered exactly.** A document of tasks or of plays that has lost list
markers of tasks and keys of lists of tasks is rebuilt as it was, in either mode, and nothing is
reported. -/
theorem rebuild_damaged (mode : RebuildMode) (document : InlineDocument) :
    rebuild mode document.kind (joinLines document.damagedLines) =
      ⟨joinLines document.lines, []⟩ := by
  have areLines : ∀ text ∈ document.damagedLines, text.IsLine ∧ text.getLast? ≠ some '\r' :=
    fun text member => (InlineDocument.isDocumentLine_damaged member).isLine
  have noHosts : document.kind = .playbook → ∀ text ∈ document.damagedLines, NoHosts text :=
    fun _ text member => (InlineDocument.isDocumentLine_damaged member).noHosts
  have ends : document.lines.getLast? ≠ some [] := by
    intro last
    exact (InlineDocument.isDocumentLine (List.mem_of_getLast? last)).notEmpty rfl
  cases document with
  | tasks items =>
      have start : Leads .taskList (· = .start mode .taskList) [marker]
          (AtTask mode .taskList [marker]) :=
        (leads_marker mode .taskList).conclude fun _ settled => ⟨{}, .first, .inr nofun, settled⟩
      refine rebuild_of_leads ?_ (List.cons_ne_nil _ _) areLines noHosts ends
      exact (start.trans (leads_tasks items)).conclude
        fun _ ⟨nesting, _, _, settled⟩ => ⟨nesting, settled.1⟩
  | plays items =>
      have start : Leads .playbook (· = .start mode .playbook) [marker] (AtPlay mode [marker]) :=
        (leads_marker mode .playbook).conclude fun _ settled => ⟨{}, .first, settled⟩
      refine rebuild_of_leads ?_ (List.cons_ne_nil _ _) areLines noHosts ends
      exact (start.trans (leads_plays items)).conclude
        fun _ ⟨nesting, _, settled⟩ => ⟨nesting, settled.1⟩

/-- A play that has lost the key of its tasks, and its second task the list marker. -/
example :
    let damaged := ["---", "- hosts: all", "  - name: install", "    apt: foo", "    name: start"]
    let whole :=
      ["---", "- hosts: all", "  tasks:", "  - name: install", "    apt: foo", "  - name: start"]
    rebuild .canonical .playbook (joinLines (damaged.map String.toList)) =
      ⟨joinLines (whole.map String.toList), []⟩ := by
  decide +kernel

end PlaybookRepair.Tidy
