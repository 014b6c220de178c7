import PlaybookRepair.Proofs.Tidy.Standing

/-!
# Runs over tidy lines

A run over lines of known texts leads from one kind of state to another (`Leads`). Each line of a
tidy document leads from a state between two lines to the next one, in which it has been written at
the column of its role: headers of plays and tasks, keywords of plays, keys of lists of tasks and
keys of tasks. Leads are joined one after the other and repeated over lists.
-/

namespace PlaybookRepair.Tidy

open Catalog (isModule isShellModule isTaskSection keywordScope?)
open Rebuild (State run)
open Tracker (shellLines suppliedTasks)

/-! ## Joining runs -/

/-- Reading lines of the given texts leads from a state of the first kind to one of the second. In a
playbook none of the lines owns a `hosts` key further down. -/
def Leads (kind : FileKind) (before : State → Prop) (texts : List Text) (after : State → Prop) :
    Prop :=
  ∀ state (entries : List (Line × Bool)), before state → entries.map (·.1.raw) = texts →
    (kind = .playbook → ∀ entry ∈ entries, entry.2 = false) → after (run state entries)

section

variable {kind : FileKind} {before between after : State → Prop} {texts more : List Text}

theorem leads_nil (holds : ∀ state, before state → after state) : Leads kind before [] after := by
  intro state entries isBefore raws _
  rw [List.map_eq_nil_iff.mp raws]
  exact holds state isBefore

theorem Leads.trans (first : Leads kind before texts between)
    (second : Leads kind between more after) : Leads kind before (texts ++ more) after := by
  intro state entries isBefore raws noHosts
  obtain ⟨head, tail, rfl, headRaws, tailRaws⟩ := List.map_eq_append_iff.mp raws
  rw [run, List.foldl_append]
  exact second _ tail
    (first state head isBefore headRaws fun isPlaybook entry member =>
      noHosts isPlaybook entry (List.mem_append_left _ member))
    tailRaws fun isPlaybook entry member =>
      noHosts isPlaybook entry (List.mem_append_right _ member)

theorem Leads.weaken (leads : Leads kind before texts after) {stronger : State → Prop}
    (implies : ∀ state, stronger state → before state) : Leads kind stronger texts after :=
  fun state entries isBefore => leads state entries (implies state isBefore)

theorem Leads.conclude (leads : Leads kind before texts between)
    (implies : ∀ state, between state → after state) : Leads kind before texts after :=
  fun state entries isBefore raws noHosts =>
    implies _ (leads state entries isBefore raws noHosts)

theorem leads_line {text : Text}
    (step : ∀ state line owns, before state → line.raw = text → (kind = .playbook → owns = false) →
      after (state.step line owns)) : Leads kind before [text] after := by
  intro state entries isBefore raws noHosts
  obtain ⟨entry, rest, rfl, raw, noMore⟩ := List.map_eq_cons_iff.mp raws
  rw [List.map_eq_nil_iff.mp noMore] at noHosts ⊢
  exact step state entry.1 entry.2 isBefore raw fun isPlaybook =>
    noHosts isPlaybook entry List.mem_cons_self

/-- What every item of a list does to the written lines is done by the list. -/
theorem leads_flatMap {α β : Type} {source : α → List Text} {target : α → List β}
    (standing : List β → State → Prop)
    (step : ∀ item written,
      Leads kind (standing written) (source item) (standing (written ++ target item)))
    (items : List α) (written : List β) :
    Leads kind (standing written) (items.flatMap source)
      (standing (written ++ items.flatMap target)) := by
  induction items generalizing written with
  | nil =>
      rw [List.flatMap_nil, List.flatMap_nil, List.append_nil]
      exact leads_nil fun _ holds => holds
  | cons item rest ih =>
      rw [List.flatMap_cons, List.flatMap_cons, ← List.append_assoc]
      exact (step item written).trans (ih _)

end

/-! ## Single lines -/

/-- The tracker stands between two lines. -/
def Stands (mode : RebuildMode) (kind : FileKind) (nesting : Nesting) (written : List Text)
    (state : State) : Prop :=
  Standing mode kind nesting written state.tracker

/-- The tracker stands between two lines, and the last one has its value on it. -/
def Settled (mode : RebuildMode) (kind : FileKind) (nesting : Nesting) (written : List Text)
    (state : State) : Prop :=
  Stands mode kind nesting written state ∧ state.previousOpensBlock = false

/-- The last line is the key of a list of tasks. -/
def Opened (mode : RebuildMode) (written : List Text) (state : State) : Prop :=
  (∃ lastKeyColumn taskAction,
    state.tracker = resting mode .playbook inSection written lastKeyColumn taskAction) ∧
      state.previousOpensBlock = true

/-- What a classified line shows. -/
structure Shows (token : LineToken) (column : Nat) (dashed : Bool) (key value : Text) : Prop where
  indent : token.indent = column
  dashed : token.dashed = dashed
  key : token.key = some key
  value : token.value = value
  ordinary : IsOrdinary token.content

section

variable {mode : RebuildMode} {kind : FileKind} {nesting : Nesting} {written : List Text}
  {key : Text} (named : KeyedLine.isName key) {column : Nat} {state : State} {line : Line}
  {owns : Bool}

theorem shows_pair {value : Content} (raw : line.raw = (Content.pair named value).line column) :
    Shows (state.classify line owns) column false key value.text := by
  obtain ⟨indent, content⟩ := Content.reads raw
  have facts := facts_pair named content
  refine ⟨indent, congrArg LineFacts.dashed facts, congrArg LineFacts.key facts,
    congrArg LineFacts.value facts, ?_⟩
  change IsOrdinary line.content
  rw [content]
  exact isOrdinary_named named _

theorem shows_item {value : Content}
    (raw : line.raw = (Content.pair named value).item.line column) :
    Shows (state.classify line owns) column true key value.text := by
  obtain ⟨indent, content⟩ := Content.reads raw
  have facts := facts_item named content
  refine ⟨indent, congrArg LineFacts.dashed facts, congrArg LineFacts.key facts,
    congrArg LineFacts.value facts, ?_⟩
  change IsOrdinary line.content
  rw [content]
  exact isOrdinary_item _

theorem shows_key (raw : line.raw = (Content.key named).line column) :
    Shows (state.classify line owns) column false key [] := by
  obtain ⟨indent, content⟩ := Content.reads raw
  have facts := facts_key named content
  refine ⟨indent, congrArg LineFacts.dashed facts, congrArg LineFacts.key facts,
    congrArg LineFacts.value facts, ?_⟩
  change IsOrdinary line.content
  rw [content]
  exact isOrdinary_named named _

variable {token : LineToken} {dashed : Bool} {value : Value}

/-- A value that needs no quotes is written as it is. -/
theorem Shows.keyedText (shows : Shows token column dashed key value.text) :
    token.keyedText = (Content.pair named value.toContent).text := by
  rw [LineToken.keyedText, shows.key, shows.value, if_neg (by simpa using value.notEmpty),
    value.unquoted]
  exact List.append_assoc _ _ _

omit named in
theorem Shows.inline (shows : Shows token column dashed key value.text) :
    token.opensBlock = false := by
  rw [LineToken.opensBlock, shows.value, value.inline, Bool.and_false]

theorem Shows.keyedText_key (shows : Shows token column dashed key []) :
    token.keyedText = (Content.key named).text := by
  rw [LineToken.keyedText, shows.key, shows.value]
  rfl

/-- The role of a line is found in the surroundings in which the tracker stands. -/
theorem Stands.role_eq (stands : Stands mode kind nesting written state) (line : Line)
    (owns : Bool) : (state.classify line owns).role = Role.ofFacts (.ofLine line)
      { kind
        playOpen := nesting.play.isSome
        taskIndent := nesting.task
        inTaskSection := nesting.taskSection.isSome
        previousOpensBlock := state.previousOpensBlock
        itemHasHosts := owns
        useIndent := mode = .incremental } := by
  rw [← stands.surroundings]
  rfl

/-- A line with its value on it settles the state. -/
theorem settled_step (notBlank : (state.classify line owns).role ≠ .blank)
    (noComment : (state.classify line owns).role ≠ .comment)
    (inline : (state.classify line owns).opensBlock = false)
    (standing : Standing mode kind nesting written
      (state.tracker.push (state.classify line owns))) :
    Settled mode kind nesting written (state.step line owns) := by
  refine ⟨standing, ?_⟩
  change (if _ then _ else _) = _
  rw [if_neg (by simp [notBlank, noComment]), inline]

end

/-! ## Tasks -/

/-- The key with which a task starts. -/
theorem isName_name : KeyedLine.isName "name".toList := by decide

/-- The name of a task, or of a play. -/
def nameContent (name : Value) : Content := .pair isName_name name.toContent

section

variable {mode : RebuildMode} {kind : FileKind} {nesting : Nesting} {written : List Text}

theorem TaskStart.inPlay {supplied : List Text} (start : TaskStart kind nesting supplied) :
    kind = .playbook → nesting.play.isSome = true := by
  intro isPlaybook
  subst isPlaybook
  cases start <;> rfl

theorem TaskStart.task {supplied : List Text} (start : TaskStart kind nesting supplied) :
    nesting.task.any (· + 2 < 4) = false := by
  cases start with
  | next => cases kind <;> rfl
  | _ => rfl

/-- A task with its list marker, after the line that is supplied for it. -/
theorem leads_suppliedTaskItem {supplied : List Text} (start : TaskStart kind nesting supplied)
    (name : Value) :
    Leads kind (Stands mode kind nesting written) [(nameContent name).item.line 2]
      (Settled mode kind (inTask kind)
        (written ++ supplied ++ [(nameContent name).item.line 2])) := by
  refine leads_line fun state line owns stands raw noHosts => ?_
  have shows : Shows (state.classify line owns) 2 true "name".toList name.text :=
    shows_item isName_name raw
  have role : (state.classify line owns).role = .taskHeader true := by
    rw [stands.role_eq]
    exact role_taskItem shows.ordinary shows.key start.inPlay shows.dashed noHosts
  have standing := Standing.push_taskHeader stands start role
    (by rw [shows.dashed]; exact shows.indent) shows.inline
  rw [shows.keyedText isName_name] at standing
  exact settled_step (by rw [role]; decide) (by rw [role]; decide) shows.inline standing

/-- A task with its list marker. -/
theorem leads_taskItem (start : TaskStart kind nesting []) (name : Value) :
    Leads kind (Stands mode kind nesting written) [(nameContent name).item.line 2]
      (Settled mode kind (inTask kind) (written ++ [(nameContent name).item.line 2])) := by
  have item : Leads kind (Stands mode kind nesting written) _
      (Settled mode kind (inTask kind) (written ++ [] ++ _)) :=
    leads_suppliedTaskItem start name
  rwa [List.append_nil] at item

/-- A task that has lost its list marker. -/
theorem leads_bareName (start : TaskStart kind nesting [])
    (mayStart : nesting.taskSection.isSome = true ∨ kind ≠ .playbook) (name : Value) :
    Leads kind (Settled mode kind nesting written) [(nameContent name).line 4]
      (Settled mode kind (inTask kind) (written ++ [(nameContent name).item.line 2])) := by
  refine leads_line fun state line owns ⟨stands, settled⟩ raw _ => ?_
  have shows : Shows (state.classify line owns) 4 false "name".toList name.text :=
    shows_pair isName_name raw
  have role : (state.classify line owns).role = .taskHeader false := by
    rw [stands.role_eq]
    refine role_bareName shows.ordinary shows.key start.inPlay shows.dashed mayStart settled ?_
    have column : (LineFacts.ofLine line).indent = 4 := shows.indent
    rw [Rule.isBelowTask, column]
    exact Bool.and_eq_false_imp.mpr fun _ => start.task
  have standing := Standing.push_taskHeader stands start role
    (by rw [shows.dashed]; exact shows.indent) shows.inline
  rw [shows.keyedText isName_name, List.append_nil] at standing
  exact settled_step (by rw [role]; decide) (by rw [role]; decide) shows.inline standing

/-- The first task of a list that has lost its list marker. -/
theorem leads_nameBelowSection (name : Value) :
    Leads .playbook (Opened mode written) [(nameContent name).line 4]
      (Settled mode .playbook (inTask .playbook)
        (written ++ [(nameContent name).item.line 2])) := by
  refine leads_line fun state line owns ⟨⟨_, _, rests⟩, opens⟩ raw _ => ?_
  have stands : Stands mode .playbook inSection written state :=
    standing_of_resting rfl rfl rests
  have shows : Shows (state.classify line owns) 4 false "name".toList name.text :=
    shows_pair isName_name raw
  have content : line.content = "name: ".toList ++ name.text :=
    (Content.reads raw).2.trans rfl
  have role : (state.classify line owns).role = .keyValue := by
    rw [stands.role_eq]
    exact role_nameBelowKey shows.ordinary shows.key (fun _ => rfl) shows.dashed content opens
  have standing := push_nameBelowSection rests role shows.indent shows.inline
  rw [shows.keyedText isName_name] at standing
  exact settled_step (by rw [role]; decide) (by rw [role]; decide) shows.inline standing

/-- A key of a task is in the scope of the task. -/
theorem isTaskScope_inTask (kind : FileKind) (opens hosts useIndent : Bool) :
    Rule.isTaskScope
      { kind
        playOpen := (inTask kind).play.isSome
        taskIndent := (inTask kind).task
        inTaskSection := (inTask kind).taskSection.isSome
        previousOpensBlock := opens
        itemHasHosts := hosts
        useIndent } 4 = true := by
  cases useIndent <;> cases kind <;> rfl

/-- The role of a key of a task in its task. -/
theorem Stands.role_taskKey {state : State} {line : Line} {owns : Bool} {key : TaskKey}
    {value : Text} (stands : Stands mode kind (inTask kind) written state)
    (shows : Shows (state.classify line owns) 4 false key.text value) :
    (state.classify line owns).role = key.role := by
  rw [stands.role_eq]
  refine Tidy.role_taskKey shows.ordinary key shows.dashed shows.key ?_
  rw [shows.indent]
  exact isTaskScope_inTask kind _ _ _

theorem TaskKey.role_ne (key : TaskKey) : key.role ≠ .blank ∧ key.role ≠ .comment := by
  rw [TaskKey.role]
  split <;> exact ⟨by decide, by decide⟩

/-- A one-line command is not the header of a block scalar. -/
theorem isBlockIndicator_value (value : Value) :
    InlineValue.isBlockIndicator value.text = false ∧ value.text.isEmpty = false ∧
      value.text.head? ≠ some '#' := by
  have inline := value.inline
  rw [InlineValue.opensBlock, Bool.or_eq_false_iff, Bool.or_eq_false_iff, decide_eq_false_iff_not]
    at inline
  exact ⟨inline.2, inline.1.1, inline.1.2⟩

/-- A key of a task with its value, which may be the command of a script. -/
theorem leads_taskKey (key : TaskKey) (value : Value) :
    Leads kind (Stands mode kind (inTask kind) written)
      [(Content.pair key.named value.toContent).line 4]
      (Settled mode kind (inTask kind)
        (written ++ [(Content.pair key.named value.toContent).line 4])) := by
  refine leads_line fun state line owns stands raw _ => ?_
  have shows : Shows (state.classify line owns) 4 false key.text value.text :=
    shows_pair key.named raw
  have role := stands.role_taskKey shows
  refine settled_step (role ▸ key.role_ne.1) (role ▸ key.role_ne.2) shows.inline ?_
  -- A command stays open as a block until the next line; any other key is written at once.
  cases script : isShellModule key.text with
  | false =>
      obtain ⟨taskAction, pushed⟩ :=
        Standing.push_plainKey stands role shows.indent shows.dashed shows.key script
      have rests : state.tracker.push (state.classify line owns) =
          resting mode kind (inTask kind)
            (written ++ [(Content.pair key.named value.toContent).line 4]) (some 4) taskAction := by
        rw [pushed, shows.inline, shows.keyedText key.named]
        cases kind <;> rfl
      refine standing_of_resting ?_ ?_ rests <;> cases kind <;> rfl
  | true =>
      obtain ⟨lastKeyColumn, taskAction, pushed⟩ :=
        Standing.push_shellKey stands role shows.indent shows.dashed shows.key script
      obtain ⟨noIndicator, notEmpty, noComment⟩ := isBlockIndicator_value value
      have block : ShellBlock.ofModule (state.classify line owns) =
          { key := key.text
            indicator := "|".toList
            startIndent := 4
            explicit := false
            inline := some value.text
            body := []
            pendingBlanks := 0 } := by
        simp only [ShellBlock.ofModule, shows.key, shows.value, noIndicator, notEmpty, noComment,
          shows.indent, Option.getD_some, Bool.false_eq_true, ↓reduceIte, decide_false,
          Bool.or_self]
      refine standing_of_shell (block ▸ pushed) rfl rfl rfl fun start => ?_
      change [indented 4 (key.text ++ ": ".toList ++ InlineValue.quoteMapping value.text)] = _
      rw [value.unquoted, List.append_assoc]
      rfl

end

/-! ## Plays -/

theorem isName_hosts : KeyedLine.isName "hosts".toList := by decide

/-- The header of a play. -/
def hostsContent (hosts : Value) : Content := .pair isName_hosts hosts.toContent

theorem PlayKey.named (key : PlayKey) : KeyedLine.isName key.text := by
  refine KeyedLine.isName_of_keywordScope? ?_
  rcases key.belongs with onPlay | onBoth
  · rw [onPlay]
    nofun
  · rw [onBoth]
    nofun

theorem SectionKey.keywordScope? (key : SectionKey) : keywordScope? key.text = some .play := by
  have listed : ∀ word ∈ Catalog.taskSections, Catalog.keywordScope? word = some .play := by
    decide +kernel
  exact listed _ (List.contains_iff_mem.mp key.belongs)

theorem SectionKey.ne_hosts (key : SectionKey) : key.text ≠ "hosts".toList := by
  intro same
  have belongs := key.belongs
  rw [same] at belongs
  revert belongs
  decide

theorem SectionKey.named (key : SectionKey) : KeyedLine.isName key.text := by
  refine KeyedLine.isName_of_keywordScope? ?_
  rw [key.keywordScope?]
  nofun

section

variable {mode : RebuildMode} {nesting : Nesting} {written : List Text}

theorem leads_playItem (start : PlayStart nesting) (hosts : Value) :
    Leads .playbook (Stands mode .playbook nesting written) [(hostsContent hosts).item.line 0]
      (Settled mode .playbook inPlay (written ++ [(hostsContent hosts).item.line 0])) := by
  refine leads_line fun state line owns stands raw _ => ?_
  have shows : Shows (state.classify line owns) 0 true "hosts".toList hosts.text :=
    shows_item isName_hosts raw
  have role : (state.classify line owns).role = .playHeader := by
    rw [stands.role_eq]
    exact role_playItem shows.ordinary shows.dashed shows.key
  have standing := Standing.push_playHeader stands start role shows.indent shows.inline
  rw [shows.keyedText isName_hosts] at standing
  exact settled_step (by rw [role]; decide) (by rw [role]; decide) shows.inline standing

theorem leads_playKey (key : PlayKey) (value : Value) :
    Leads .playbook (Stands mode .playbook inPlay written)
      [(Content.pair key.named value.toContent).line 2]
      (Settled mode .playbook inPlay
        (written ++ [(Content.pair key.named value.toContent).line 2])) := by
  refine leads_line fun state line owns stands raw _ => ?_
  have shows : Shows (state.classify line owns) 2 false key.text value.text :=
    shows_pair key.named raw
  have role : (state.classify line owns).role = .playAttribute := by
    rw [stands.role_eq]
    exact role_playKeyword shows.ordinary shows.dashed shows.key key.notHosts
      (key.belongs.imp_right fun onBoth => ⟨onBoth, rfl⟩)
  obtain ⟨lastKeyColumn, taskAction, pushed⟩ :=
    Standing.push_playKeyword stands (.inl rfl) role shows.indent shows.dashed
  rw [if_neg (by simp [shows.inline]), Tracker.afterKey, shows.inline,
    shows.keyedText key.named] at pushed
  exact settled_step (by rw [role]; decide) (by rw [role]; decide) shows.inline
    (standing_of_resting rfl rfl pushed)

/-- The key of a list of tasks ends the list before it, if there is one. -/
theorem leads_section (isOpen : nesting = inPlay ∨ nesting = inTask .playbook) (key : SectionKey) :
    Leads .playbook (Stands mode .playbook nesting written) [(Content.key key.named).line 2]
      (Opened mode (written ++ [(Content.key key.named).line 2])) := by
  refine leads_line fun state line owns stands raw _ => ?_
  have shows : Shows (state.classify line owns) 2 false key.text [] := shows_key key.named raw
  have role : (state.classify line owns).role = .playAttribute := by
    rw [stands.role_eq]
    exact role_playKeyword shows.ordinary shows.dashed shows.key key.ne_hosts
      (.inl key.keywordScope?)
  have opens : (state.classify line owns).opensBlock = true := by
    rw [LineToken.opensBlock, shows.key, shows.value]
    rfl
  have noIndicator : InlineValue.isBlockIndicator (state.classify line owns).value = false := by
    rw [shows.value]
    rfl
  obtain ⟨lastKeyColumn, taskAction, pushed⟩ :=
    Standing.push_playKeyword stands isOpen role shows.indent shows.dashed
  rw [if_pos (by simp [shows.key, key.belongs, opens, noIndicator]),
    shows.keyedText_key key.named] at pushed
  refine ⟨⟨lastKeyColumn, taskAction, pushed⟩, ?_⟩
  change (if _ then _ else _) = _
  rw [if_neg (by simp [role]), opens]

end

/-! ## Documents -/

/-- The line with which a document starts. -/
def marker : Text := "---".toList

theorem leads_marker (mode : RebuildMode) (kind : FileKind) :
    Leads kind (· = .start mode kind) [marker] (Settled mode kind {} [marker]) := by
  refine leads_line fun state line owns start raw _ => ?_
  obtain ⟨number, _⟩ := line
  obtain rfl : _ = marker := raw
  subst start
  have placed : ((State.start mode kind).step { number, raw := marker } owns).tracker =
      resting mode kind {} [marker] none none := by
    cases mode <;> cases kind <;> rfl
  exact ⟨standing_of_resting rfl rfl placed, by cases mode <;> cases kind <;> rfl⟩

/-- A document that starts with its marker and does not end with an empty line is finished as it
is. -/
theorem finish_of_standing {mode : RebuildMode} {kind : FileKind} {nesting : Nesting}
    {rest : List Text} {tracker : Tracker}
    (standing : Standing mode kind nesting (marker :: rest) tracker)
    (ends : (marker :: rest).getLast? ≠ some []) :
    tracker.finish = ⟨Tracker.joinLines (marker :: rest), []⟩ := by
  obtain ⟨_, _, _, closed, _⟩ := standing.closed
  have kept : Tracker.dropTrailingEmpty (marker :: rest) = marker :: rest := by
    unfold Tracker.dropTrailingEmpty
    rw [← List.head?_reverse] at ends
    cases reversed : (marker :: rest).reverse with
    | nil => simp at reversed
    | cons last more =>
        rw [reversed] at ends
        have notEmpty : last ≠ [] := fun empty => ends (by rw [empty]; rfl)
        rw [List.dropWhile_cons_of_neg (by simpa using notEmpty), ← reversed, List.reverse_reverse]
  have written : Tracker.dropTrailingEmpty tracker.flushShell.out = marker :: rest := by
    rw [closed]
    exact kept
  have reports : tracker.flushShell.ambiguities = [] := by
    rw [closed]
    rfl
  have marked : Tracker.startsWithMarker (marker :: rest) = true := rfl
  rw [Tracker.finish, Tracker.finishedLines, written, reports, if_neg (by simp [marked])]

/-- The line is no `hosts` key without a list marker. -/
def NoHosts (text : Text) : Prop :=
  ∀ line : Line, line.raw = text → (LineFacts.ofLine line).dashed = false →
    (LineFacts.ofLine line).hasKey "hosts" = false

theorem ownsHosts_eq_false {lines : List Line} (noHosts : ∀ line ∈ lines, NoHosts line.raw) :
    ∀ owns ∈ Rebuild.ownsHosts lines, owns = false := by
  have none : (Rebuild.hostsBelow (lines.map .ofLine)).2 = false ∧
      ∀ owns ∈ (Rebuild.hostsBelow (lines.map .ofLine)).1, owns = false := by
    induction lines with
    | nil => exact ⟨rfl, nofun⟩
    | cons line rest ih =>
        obtain ⟨below, owns⟩ := ih fun other member => noHosts other (List.mem_cons_of_mem _ member)
        have noKey : (!(LineFacts.ofLine line).dashed && (LineFacts.ofLine line).hasKey "hosts") =
            false := by
          cases dashed : (LineFacts.ofLine line).dashed with
          | true => rfl
          | false => exact noHosts line List.mem_cons_self line rfl dashed
        rw [List.map_cons, Rebuild.hostsBelow]
        dsimp only
        rw [below, noKey]
        refine ⟨ite_self _, fun flag member => ?_⟩
        rcases List.mem_cons.mp member with rfl | later
        · exact Bool.and_false _
        · exact owns flag later
  exact none.2

/-- **Rebuilding tidy documents.** A text whose lines lead to a state in which the given lines have
been written is rebuilt as these lines, and nothing is reported. -/
theorem rebuild_of_leads {mode : RebuildMode} {kind : FileKind} {source rest : List Text}
    (leads : Leads kind (· = .start mode kind) source fun state =>
      ∃ nesting, Stands mode kind nesting (marker :: rest) state)
    (notEmpty : source ≠ [])
    (areLines : ∀ text ∈ source, text.IsLine ∧ text.getLast? ≠ some '\r')
    (noHosts : kind = .playbook → ∀ text ∈ source, NoHosts text)
    (ends : (marker :: rest).getLast? ≠ some []) :
    rebuild mode kind (Tracker.joinLines source) = ⟨Tracker.joinLines (marker :: rest), []⟩ := by
  have raws : (Line.ofText (Tracker.joinLines source)).map (·.raw) = source := by
    rw [Line.ofText, List.map_map, Tracker.joinLines, Text.lines_joinLines notEmpty areLines]
    exact List.zipIdx_map_fst 1 _
  unfold rebuild
  generalize Line.ofText (Tracker.joinLines source) = lines at raws
  suffices ∃ nesting, Stands mode kind nesting (marker :: rest)
      (run (.start mode kind) (lines.zip (Rebuild.ownsHosts lines))) by
    obtain ⟨nesting, stands⟩ := this
    exact finish_of_standing stands ends
  refine leads _ _ rfl ?_ ?_
  · rw [← raws]
    change ((lines.zip _).map (Line.raw ∘ Prod.fst)) = _
    rw [← List.map_map, List.map_fst_zip]
    rw [Rebuild.ownsHosts, Rebuild.length_hostsBelow, List.length_map]
  · intro isPlaybook entry member
    have all : ∀ line ∈ lines, NoHosts line.raw := fun line isLine =>
      noHosts isPlaybook _ (raws ▸ List.mem_map_of_mem isLine)
    exact ownsHosts_eq_false all _ (List.of_mem_zip member).2

end PlaybookRepair.Tidy
