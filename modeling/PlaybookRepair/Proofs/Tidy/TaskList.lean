import PlaybookRepair.Proofs.Rebuild.Layout
import PlaybookRepair.Proofs.ShellBlock
import PlaybookRepair.Proofs.Tidy.Run

/-!
# Tidy lists of tasks

In a tidy list of tasks every task has its header and, at the column of its keys, keys with inline
values, scripts in block scalars, and keys with nested values. The lines of a script or of a nested
value may be any text, since they are told by their columns alone. The incremental mode leaves such
a document as it is (`rebuild_tidy`): the lines of a script are gathered into its block, which is
written where it stood (`leads_script`), and nested lines keep their distance from their key
(`leads_nested`).
-/

namespace PlaybookRepair.Tidy

open Catalog (isShellModule)
open InlineValue (isBlockIndicator withoutComment)
open Rebuild (State)
open Tracker (joinLines shellLines)

/-! ## Documents -/

/-- The headers of block scalars that have no indentation indicator and no comment. -/
def scalarHeaders : List Text := ["|", ">", "|-", "|+", ">-", ">+"].map String.toList

/-- A line of a script after the first one, with the empty lines before it. It stands no further
left than the first line. -/
structure ScriptText where
  blanks : Nat
  extra : Nat
  content : Content

/-- A line of a nested value, which is written there as it is. -/
structure NestedText where
  extra : Nat
  content : Content
  kept : (LineToken.classify { number := 0, raw := content.text } {}).nestedText = content.text

/-- What stands below the header of a task. -/
inductive TaskItem
  /-- A key with its value. -/
  | inline (key : TaskKey) (value : Value)
  /-- A script in a block scalar. -/
  | script (key : TaskKey) (isScript : isShellModule key.text) (header : Text)
    (isHeader : header ∈ scalarHeaders) (first : Content) (rest : List ScriptText)
  /-- A key with its value on the lines below. -/
  | nested (key : TaskKey) (noScript : isShellModule key.text = false) (first : NestedText)
    (rest : List NestedText)

/-- A task with its name and what stands below. -/
structure TidyTask where
  name : Value
  items : List TaskItem

theorem scalarHeader_facts : ∀ header ∈ scalarHeaders, header ≠ [] ∧ Text.trim header = header ∧
    header.IsLine ∧ isBlockIndicator header ∧ withoutComment header = header := by
  decide

/-- The header of a block scalar as a value. -/
def headerContent {header : Text} (isHeader : header ∈ scalarHeaders) : Content where
  text := header
  notEmpty := (scalarHeader_facts header isHeader).1
  trimmed := (scalarHeader_facts header isHeader).2.1
  isLine := (scalarHeader_facts header isHeader).2.2.1

def ScriptText.lines (line : ScriptText) : List Text :=
  List.replicate line.blanks [] ++ [line.content.line (6 + line.extra)]

def NestedText.line (line : NestedText) : Text := line.content.line (6 + line.extra)

def TaskItem.lines : TaskItem → List Text
  | inline key value => [(Content.pair key.named value.toContent).line 4]
  | script key _ _ isHeader first rest =>
    (Content.pair key.named (headerContent isHeader)).line 4 :: first.line 6 ::
      rest.flatMap ScriptText.lines
  | nested key _ first rest =>
    (Content.key key.named).line 4 :: (first :: rest).flatMap fun line => [line.line]

def TidyTask.lines (task : TidyTask) : List Text :=
  (nameContent task.name).item.line 2 :: task.items.flatMap TaskItem.lines

/-! ## Nested values -/

/-- What a line is as part of a value depends on its content alone. -/
theorem nestedText_of_content {first second : Line} (same : second.content = first.content)
    (around other : Surroundings) :
    (LineToken.classify second other).nestedText =
      (LineToken.classify first around).nestedText := by
  have moved : (LineToken.classify second other).nestedText =
      ((LineToken.classify first around).moved second).nestedText := by
    simp only [LineToken.classify, LineToken.moved, LineFacts.ofLine_of_content same]
    rfl
  rw [moved, LineToken.nestedText_moved _ same]

theorem NestedText.nestedText_eq {line : Line} {nested : NestedText}
    (content : line.content = nested.content.text) (around : Surroundings) :
    (LineToken.classify line around).nestedText = nested.content.text := by
  have same : line.content = Line.content { number := 0, raw := nested.content.text } :=
    content.trans nested.content.trimmed.symm
  rw [nestedText_of_content same {}, nested.kept]

section

variable {kind : FileKind} {written : List Text}

/-- The value of a key at the column of task keys is open. -/
def InValue (kind : FileKind) (written : List Text) (state : State) : Prop :=
  ∃ key lastKeyColumn taskAction,
    state.tracker = resting .incremental kind { inTask kind with openKey := some key } written
      lastKeyColumn taskAction ∧ EndsOutside .incremental key ∧ key.depth = 4

theorem InValue.stands {state : State} (inValue : InValue kind written state) :
    Stands .incremental kind (inTask kind) written state := by
  obtain ⟨key, lastKeyColumn, taskAction, rests, ends, _⟩ := inValue
  have noShell : state.tracker.nesting.shell = none := by
    rw [rests]
    cases kind <;> rfl
  refine ⟨⟨some key, lastKeyColumn, taskAction, ?_, fun _ isOpen => Option.some.inj isOpen ▸ ends⟩,
    fun block isOpen => ?_⟩
  · rw [Tracker.flushShell_of_none noShell, rests]
  · rw [noShell] at isOpen
    cases isOpen

/-- A key among the lines of a value does not end the value. -/
theorem EndsOutside.keyAfter {key : OpenKey} (ends : EndsOutside .incremental key)
    {token : LineToken} (deep : 4 < token.indent) (column : Nat) :
    EndsOutside .incremental (Tracker.keyAfter (Tracker.keyAt key token) token column) := by
  have inner : ∀ inner, (Tracker.keyAt key token).innerLiteral = some inner →
      4 ≤ inner.sourceIndent := fun inner found =>
    ends.inner inner (Option.filter_eq_some_iff.mp found).1
  unfold Tracker.keyAfter
  split
  · refine ⟨rfl, ends.sourceIndent, ends.literal, fun inner found => ?_⟩
    obtain rfl := Option.some.inj found
    exact (Nat.le_of_lt deep).trans (Nat.le_add_right _ _)
  · exact ⟨rfl, ends.sourceIndent, ends.literal, inner⟩

theorem depth_keyAfter (key : OpenKey) (token : LineToken) (column : Nat) :
    (Tracker.keyAfter (Tracker.keyAt key token) token column).depth = key.depth := by
  unfold Tracker.keyAfter
  split <;> rfl

/-- A line right of an open key keeps its column. -/
theorem push_nested {tracker : Tracker} {key : OpenKey} {lastKeyColumn : Option Nat}
    {taskAction : Option TaskAction}
    (rests : tracker = resting .incremental kind { inTask kind with openKey := some key } written
      lastKeyColumn taskAction)
    (ends : EndsOutside .incremental key) (depth : key.depth = 4) {token : LineToken}
    (notBlank : token.role ≠ .blank) (deep : 4 < token.indent)
    (kept : token.nestedText = token.content) :
    tracker.push token =
      resting .incremental kind
        { inTask kind with
          openKey := some (Tracker.keyAfter (Tracker.keyAt key token) token token.indent) }
        (written ++ [indented token.indent token.content]) lastKeyColumn taskAction := by
  have isOpen : tracker.nesting.openKey = some key := by rw [rests]; rfl
  have noShell : tracker.nesting.shell = none := by
    rw [rests]
    cases kind <;> rfl
  have mode : tracker.mode = .incremental := by rw [rests]; rfl
  have nests : tracker.nestsUnder (Tracker.keyAt key token) token = true := by
    have literal : (Tracker.keyAt key token).literal = false := ends.literal
    have sourceIndent : (Tracker.keyAt key token).sourceIndent = 4 := ends.sourceIndent
    rw [Tracker.nestsUnder, literal, sourceIndent, mode]
    simp [deep]
  have column : tracker.nestedColumn (Tracker.keyAt key token) token = token.indent := by
    rw [Tracker.nestedColumn, mode]
    change key.depth + (token.indent - key.sourceIndent) = token.indent
    rw [depth, ends.sourceIndent]
    omega
  have taken := Tracker.takeNested?_of_nests isOpen nests
  rw [kept, ite_self, column] at taken
  rw [Tracker.push_of_noShell noShell, Tracker.pushOutsideShell_of_taken notBlank taken, rests]
  rfl

/-- A line of a nested value. -/
theorem leads_nestedLine (nested : NestedText) :
    Leads kind (InValue kind written) [nested.line] (InValue kind (written ++ [nested.line])) := by
  refine leads_line fun state line owns inValue raw _ => ?_
  obtain ⟨key, lastKeyColumn, taskAction, rests, ends, depth⟩ := inValue
  obtain ⟨indent, content⟩ := Content.reads raw
  have column : (state.classify line owns).indent = 6 + nested.extra := indent
  have text : (state.classify line owns).content = nested.content.text := content
  have deep : 4 < (state.classify line owns).indent := by omega
  have classified : (state.classify line owns).Classified := ⟨_, _, rfl⟩
  have notBlank : (state.classify line owns).role ≠ .blank :=
    mt classified.role_eq_blank_iff.mp (text ▸ nested.content.notEmpty)
  have kept : (state.classify line owns).nestedText = (state.classify line owns).content :=
    (NestedText.nestedText_eq content _).trans text.symm
  have shown : indented (state.classify line owns).indent (state.classify line owns).content =
      nested.line := by
    rw [column, text]
    rfl
  have pushed := push_nested rests ends depth notBlank deep kept
  rw [shown] at pushed
  exact ⟨_, lastKeyColumn, taskAction, pushed, ends.keyAfter deep _,
    (depth_keyAfter key _ _).trans depth⟩

/-- A key whose value is on the lines below. -/
theorem leads_openKey (key : TaskKey) (noScript : isShellModule key.text = false) :
    Leads kind (Stands .incremental kind (inTask kind) written) [(Content.key key.named).line 4]
      (InValue kind (written ++ [(Content.key key.named).line 4])) := by
  refine leads_line fun state line owns stands raw _ => ?_
  have shows : Shows (state.classify line owns) 4 false key.text [] := shows_key key.named raw
  have role := stands.role_taskKey shows
  have opens : (state.classify line owns).opensBlock = true := by
    rw [LineToken.opensBlock, shows.key, shows.value]
    rfl
  obtain ⟨taskAction, pushed⟩ :=
    Standing.push_plainKey stands role shows.indent shows.dashed shows.key noScript
  rw [opens, if_pos rfl, shows.value, shows.keyedText_key key.named] at pushed
  exact ⟨_, some 4, taskAction, pushed, ⟨rfl, rfl, rfl, by simp⟩, rfl⟩

/-- A key with its value on the lines below. -/
theorem leads_nested (key : TaskKey) (noScript : isShellModule key.text = false)
    (nested : List NestedText) :
    Leads kind (Stands .incremental kind (inTask kind) written)
      ((Content.key key.named).line 4 :: nested.flatMap fun line => [line.line])
      (Stands .incremental kind (inTask kind)
        (written ++ (Content.key key.named).line 4 :: nested.flatMap fun line => [line.line])) := by
  have opened : Leads kind (Stands .incremental kind (inTask kind) written) _ (InValue kind _) :=
    leads_openKey key noScript
  have whole := opened.trans
    (leads_flatMap (InValue kind) (fun line _ => leads_nestedLine line) nested _)
  rw [List.append_assoc] at whole
  exact whole.conclude fun _ inValue => inValue.stands

/-! ## Scripts -/

/-- A block scalar in a task that has gathered some lines of its script. -/
def scriptBlock (key header : Text) (body : List ScriptLine) (pendingBlanks : Nat) :
    ShellBlock where
  key
  indicator := header
  startIndent := 4
  explicit := true
  inline := none
  body
  pendingBlanks

/-- A line of a script as it is gathered. -/
def ScriptText.gathered (line : ScriptText) : List ScriptLine :=
  List.replicate line.blanks ⟨0, []⟩ ++ [⟨6 + line.extra, line.content.text⟩]

/-- The script of a task is being gathered. -/
def InScript (kind : FileKind) (written : List Text) (key header : Text) (pendingBlanks : Nat)
    (body : List ScriptLine) (state : State) : Prop :=
  ∃ lastKeyColumn taskAction,
    state.tracker = resting .incremental kind
      { inTask kind with shell := some (scriptBlock key header body pendingBlanks) } written
      lastKeyColumn taskAction

variable {key header : Text} {body : List ScriptLine} {blanks : Nat}

theorem leads_scriptKey (key : TaskKey) (isScript : isShellModule key.text)
    (isHeader : header ∈ scalarHeaders) :
    Leads kind (Stands .incremental kind (inTask kind) written)
      [(Content.pair key.named (headerContent isHeader)).line 4]
      (InScript kind written key.text header 0 []) := by
  refine leads_line fun state line owns stands raw _ => ?_
  have shows : Shows (state.classify line owns) 4 false key.text header :=
    shows_pair key.named raw
  obtain ⟨_, _, _, isIndicator, noComment⟩ := scalarHeader_facts header isHeader
  have block : ShellBlock.ofModule (state.classify line owns) =
      scriptBlock key.text header [] 0 := by
    simp only [ShellBlock.ofModule, scriptBlock, shows.key, shows.value, shows.indent, isIndicator,
      noComment, Option.getD_some, ↓reduceIte, Bool.or_true]
  obtain ⟨lastKeyColumn, taskAction, pushed⟩ := Standing.push_shellKey stands
    (stands.role_taskKey shows) shows.indent shows.dashed shows.key isScript
  exact ⟨lastKeyColumn, taskAction, block ▸ pushed⟩

theorem leads_scriptBlank :
    Leads kind (InScript kind written key header blanks body) [[]]
      (InScript kind written key header (blanks + 1) body) := by
  refine leads_line fun state line owns ⟨lastKeyColumn, taskAction, rests⟩ raw _ => ?_
  have classified : (state.classify line owns).Classified := ⟨_, _, rfl⟩
  have content : (state.classify line owns).content = [] := by
    change line.content = []
    rw [Line.content, raw]
    rfl
  have isBlank := classified.role_eq_blank_iff.mpr content
  have shell : state.tracker.nesting.shell = some (scriptBlock key header body blanks) := by
    rw [rests]
    rfl
  have pushed := Tracker.push_of_absorbed (Tracker.extendShell?_of_blank shell isBlank)
  refine ⟨lastKeyColumn, taskAction, pushed.trans ?_⟩
  rw [rests]
  rfl

theorem leads_scriptBlanks (count : Nat) :
    Leads kind (InScript kind written key header 0 body) (List.replicate count [])
      (InScript kind written key header count body) := by
  induction count with
  | zero => exact leads_nil fun _ holds => holds
  | succ count ih =>
      rw [List.replicate_succ']
      exact ih.trans leads_scriptBlank

/-- A line right of the key of a script belongs to the script, whatever it looks like. -/
theorem leads_scriptLine (started : body = [] → blanks = 0) (content : Content) (extra : Nat) :
    Leads kind (InScript kind written key header blanks body) [content.line (6 + extra)]
      (InScript kind written key header 0
        (body ++ (List.replicate blanks ⟨0, []⟩ ++ [⟨6 + extra, content.text⟩]))) := by
  refine leads_line fun state line owns ⟨lastKeyColumn, taskAction, rests⟩ raw _ => ?_
  obtain ⟨indent, text⟩ := Content.reads raw
  have classified : (state.classify line owns).Classified := ⟨_, _, rfl⟩
  have notBlank : (state.classify line owns).role ≠ .blank :=
    mt classified.role_eq_blank_iff.mp (text ▸ content.notEmpty : line.content ≠ [])
  -- A block scalar of the source ends by its column alone, so the role of the line does not count.
  have accepts : (scriptBlock key header body blanks).accepts (state.classify line owns) =
      true := by
    change decide (4 < line.indent) = true
    rw [indent]
    exact decide_eq_true (by omega)
  have taken : ShellBlock.scriptLine (state.classify line owns) = ⟨6 + extra, content.text⟩ := by
    rw [← indent, ← text]
    rfl
  have grown : (scriptBlock key header body blanks).push (state.classify line owns) =
      scriptBlock key header
        (body ++ (List.replicate blanks ⟨0, []⟩ ++ [⟨6 + extra, content.text⟩])) 0 := by
    rw [ShellBlock.push, taken, List.append_assoc]
    cases body with
    | nil =>
        rw [started rfl]
        rfl
    | cons => rfl
  have shell : state.tracker.nesting.shell = some (scriptBlock key header body blanks) := by
    rw [rests]
    rfl
  have pushed := Tracker.push_of_absorbed (Tracker.extendShell?_of_accepts shell notBlank accepts)
  refine ⟨lastKeyColumn, taskAction, pushed.trans ?_⟩
  rw [rests, grown]
  rfl

theorem leads_scriptText (first : ScriptLine) (rest : List ScriptLine) (line : ScriptText) :
    Leads kind (InScript kind written key header 0 (first :: rest)) line.lines
      (InScript kind written key header 0 (first :: (rest ++ line.gathered))) :=
  (leads_scriptBlanks line.blanks).trans
    (leads_scriptLine (fun empty => (List.cons_ne_nil _ _ empty).elim) line.content line.extra)

/-- A script whose first line with text stands at column 6, and no line left of it, is written as it
is. -/
theorem shellLines_script (base : ShellBlock.baseIndent body = 6)
    (deep : ∀ line ∈ body, line.text ≠ [] → 6 ≤ line.indent) (start : Nat) :
    shellLines .incremental (scriptBlock key header body 0)
        { start, length := 0, depth := 4, dashed := false } =
      indented 4 (key ++ ": ".toList ++ header) ::
        body.map fun line => indented line.indent line.text := by
  -- A line is written two columns right of the key and as much further as it stands right of the
  -- first line, which is where it stood.
  have entry : ∀ line ∈ body, (fun entry : Nat × Text => indented (4 + entry.1) entry.2)
      (if line.text.isEmpty then (0, []) else (2 + (line.indent - 6), line.text)) =
        indented line.indent line.text := by
    intro line member
    by_cases empty : line.text = []
    · rw [empty]
      rfl
    · have column := deep line member empty
      rw [if_neg (by simpa using empty)]
      change indented (4 + (2 + (line.indent - 6))) line.text = _
      rw [show 4 + (2 + (line.indent - 6)) = line.indent by omega]
  rw [shellLines, ShellBlock.render_of_script (by exact Bool.false_ne_true)]
  change _ :: (body.map fun line => if line.text.isEmpty then (0, [])
    else (2 + (line.indent - ShellBlock.baseIndent body), line.text)).map _ = _
  rw [base, List.map_map]
  exact congrArg _ (List.map_congr_left entry)

theorem ScriptText.map_gathered (line : ScriptText) :
    line.gathered.map (fun line => indented line.indent line.text) = line.lines := by
  rw [ScriptText.gathered, List.map_append, List.map_replicate]
  rfl

theorem ScriptText.deep_gathered (script : ScriptText) :
    ∀ line ∈ script.gathered, line.text ≠ [] → 6 ≤ line.indent := by
  intro line member hasText
  rcases List.mem_append.mp member with isBlank | isText
  · rw [List.eq_of_mem_replicate isBlank] at hasText
    exact (hasText rfl).elim
  · rw [List.mem_singleton.mp isText]
    exact Nat.le_add_right 6 _

/-- **Scripts.** A script in a block scalar is written as it is, whatever its lines look like. -/
theorem leads_script (key : TaskKey) (isScript : isShellModule key.text)
    (isHeader : header ∈ scalarHeaders) (first : Content) (rest : List ScriptText) :
    Leads kind (Stands .incremental kind (inTask kind) written)
      (TaskItem.script key isScript header isHeader first rest).lines
      (Stands .incremental kind (inTask kind)
        (written ++ (TaskItem.script key isScript header isHeader first rest).lines)) := by
  have firstLine : Leads kind (InScript kind written key.text header 0 []) [first.line 6]
      (InScript kind written key.text header 0 [⟨6, first.text⟩]) :=
    leads_scriptLine (fun _ => rfl) first 0
  have restLines := leads_flatMap
    (fun rest => InScript kind written key.text header 0 (⟨6, first.text⟩ :: rest))
    (fun line rest => leads_scriptText _ rest line) rest []
  have whole := (leads_scriptKey key isScript isHeader).trans (firstLine.trans restLines)
  refine whole.conclude fun state ⟨lastKeyColumn, taskAction, rests⟩ => ?_
  refine standing_of_shell rests rfl rfl rfl fun start => ?_
  have base : ShellBlock.baseIndent (⟨6, first.text⟩ :: ([] ++ rest.flatMap ScriptText.gathered)) =
      6 := by
    rw [ShellBlock.baseIndent, List.find?_cons_of_pos (by simpa using first.notEmpty)]
    rfl
  have deep : ∀ line ∈ ScriptLine.mk 6 first.text :: ([] ++ rest.flatMap ScriptText.gathered),
      line.text ≠ [] → 6 ≤ line.indent := by
    intro line member hasText
    rcases List.mem_cons.mp member with rfl | isLater
    · exact le_rfl
    · obtain ⟨script, _, isLine⟩ := List.mem_flatMap.mp isLater
      exact script.deep_gathered line isLine hasText
  rw [shellLines_script base deep, List.map_cons, List.nil_append, List.map_flatMap]
  simp only [ScriptText.map_gathered]
  rw [List.append_assoc]
  rfl

end

/-! ## Tasks -/

section

variable {kind : FileKind} {nesting : Nesting} {written : List Text}

theorem leads_item (item : TaskItem) :
    Leads kind (Stands .incremental kind (inTask kind) written) item.lines
      (Stands .incremental kind (inTask kind) (written ++ item.lines)) := by
  cases item with
  | inline key value => exact (leads_taskKey key value).conclude fun _ settled => settled.1
  | script key isScript header isHeader first rest =>
      exact leads_script key isScript isHeader first rest
  | nested key noScript first rest => exact leads_nested key noScript (first :: rest)

theorem leads_tidyTask (start : TaskStart kind nesting []) (task : TidyTask) :
    Leads kind (Stands .incremental kind nesting written) task.lines
      (Stands .incremental kind (inTask kind) (written ++ task.lines)) := by
  have header : Leads kind (Stands .incremental kind nesting written)
      [(nameContent task.name).item.line 2] (Stands .incremental kind (inTask kind)
        (written ++ [(nameContent task.name).item.line 2])) :=
    (leads_taskItem start task.name).conclude fun _ settled => settled.1
  have items := leads_flatMap (Stands .incremental kind (inTask kind))
    (fun item _ => leads_item item) task.items
  have whole := header.trans (items _)
  rwa [List.append_assoc] at whole

/-- The tracker stands where a task of the list may start. -/
def MayStart (written : List Text) (state : State) : Prop :=
  ∃ nesting, TaskStart .taskList nesting [] ∧ Stands .incremental .taskList nesting written state

theorem leads_tidyTasks (tasks : List TidyTask) (written : List Text) :
    Leads .taskList (MayStart written) (tasks.flatMap TidyTask.lines)
      (MayStart (written ++ tasks.flatMap TidyTask.lines)) := by
  refine leads_flatMap MayStart (fun task written => ?_) tasks written
  rintro state entries ⟨nesting, start, stands⟩ raws noHosts
  exact ⟨_, .next .taskList, leads_tidyTask start task state entries stands raws noHosts⟩

end

/-! ## Documents -/

/-- Every line takes up one line of a text, and the last one is not empty. -/
structure AreLines (texts : List Text) : Prop where
  areLines : ∀ text ∈ texts, text.IsLine ∧ text.getLast? ≠ some '\r'
  ends : texts.getLast? ≠ some []

theorem AreLines.append {first second : List Text} (above : AreLines first)
    (below : AreLines second) : AreLines (first ++ second) where
  areLines := by
    intro text member
    exact (List.mem_append.mp member).elim (above.areLines text) (below.areLines text)
  ends := by
    rw [List.getLast?_append]
    cases last : second.getLast? with
    | none => exact above.ends
    | some text =>
        rw [Option.some_or, ← last]
        exact below.ends

theorem AreLines.flatMap {α : Type} {lines : α → List Text} (all : ∀ item, AreLines (lines item))
    (items : List α) : AreLines (items.flatMap lines) := by
  induction items with
  | nil => exact ⟨nofun, nofun⟩
  | cons item rest ih => exact (all item).append ih

theorem areLines_line (content : Content) (column : Nat) : AreLines [content.line column] where
  areLines := by
    intro text member
    rw [List.mem_singleton.mp member]
    exact content.isLine_line column
  ends := by
    rw [content.line_eq]
    intro last
    exact List.append_ne_nil_of_right_ne_nil _ content.notEmpty (Option.some.inj last)

theorem ScriptText.areLines (line : ScriptText) : AreLines line.lines where
  areLines := by
    intro text member
    rcases List.mem_append.mp member with isBlank | isText
    · rw [List.eq_of_mem_replicate isBlank]
      exact ⟨Text.isLine_nil, nofun⟩
    · exact (areLines_line line.content _).areLines text isText
  ends := by
    rw [ScriptText.lines, List.getLast?_append_of_ne_nil _ (List.cons_ne_nil _ _)]
    exact (areLines_line line.content _).ends

theorem TaskItem.areLines (item : TaskItem) : AreLines item.lines := by
  cases item with
  | inline key value => exact areLines_line _ 4
  | script key isScript header isHeader first rest =>
      exact (areLines_line _ 4).append
        ((areLines_line first 6).append (.flatMap ScriptText.areLines rest))
  | nested key noScript first rest =>
      have values : AreLines ((first :: rest).flatMap fun line => [line.line]) :=
        .flatMap (fun line : NestedText => areLines_line line.content _) _
      exact (areLines_line _ 4).append values

theorem TidyTask.areLines (task : TidyTask) : AreLines task.lines :=
  (areLines_line _ 2).append (.flatMap TaskItem.areLines task.items)

/-- **Tidy lists of tasks.** The incremental mode leaves such a list as it is and reports
nothing. -/
theorem rebuild_tidy (tasks : List TidyTask) :
    rebuild .incremental .taskList (joinLines (marker :: tasks.flatMap TidyTask.lines)) =
      ⟨joinLines (marker :: tasks.flatMap TidyTask.lines), []⟩ := by
  have start : Leads .taskList (· = .start .incremental .taskList) [marker] (MayStart [marker]) :=
    (leads_marker .incremental .taskList).conclude fun _ settled => ⟨{}, .first, settled.1⟩
  have lines : AreLines (marker :: tasks.flatMap TidyTask.lines) :=
    (AreLines.mk (by decide) (by decide) : AreLines [marker]).append
      (.flatMap TidyTask.areLines tasks)
  refine rebuild_of_leads ?_ (List.cons_ne_nil _ _) lines.areLines nofun lines.ends
  exact (start.trans (leads_tidyTasks tasks _)).conclude
    fun _ ⟨nesting, _, stands⟩ => ⟨nesting, stands⟩

/-- A script may hold a line that looks like the header of a play. -/
example :
    let text := joinLines <| ["---", "  - name: run", "    shell: |", "      cat <<EOF", "",
      "        - hosts: all", "    vars:", "      a: b"].map String.toList
    rebuild .incremental .taskList text = ⟨text, []⟩ := by
  decide +kernel

end PlaybookRepair.Tidy
