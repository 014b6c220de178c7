import PlaybookRepair.Proofs.KeyedLine
import PlaybookRepair.Proofs.Outline.Path
import PlaybookRepair.Proofs.Rebuild.Ledger

/-!
# The tracker and the outline

What the tracker has open agrees with where its lines have led: a list of tasks is open only in such
a part of the document, the keys below which lines are placed stand deep enough there, and a task
that has written nothing yet is about to write its list marker (`Tracker.Frame`, `Tracker.Keys`).
Opening and closing sections and writing lines at their columns keep this in step
(`Tracker.Laid`).
-/

namespace PlaybookRepair

open Outline

/-! ## Keys of lines -/

theorem Text.StartsKey.not_isTopItem {text : Text} (starts : text.StartsKey) :
    ¬ IsTopItem text := by
  obtain ⟨c, rest, rfl, _, notHyphen⟩ := starts
  rintro ⟨more, isItem⟩
  exact notHyphen (List.cons.inj isItem).1.symm

/-- A key starts with a quote or with the first character of a name. -/
theorem KeyedLine.startsKey_of_splitKey? {body key rest : Text}
    (split : splitKey? body = some (key, rest)) : key.StartsKey := by
  have quoted {quote : Char} {text : Text} (isQuote : quote = '"' ∨ quote = '\'')
      (split : splitQuotedKey? quote text = some (key, rest)) : key.StartsKey := by
    unfold splitQuotedKey? at split
    dsimp only at split
    split at split
    · split at split
      · cases split
      · cases split
        rcases isQuote with rfl | rfl <;> exact ⟨_, _, rfl, by decide, by decide⟩
    · cases split
  unfold splitKey? at split
  split at split
  · exact quoted (.inl rfl) split
  · exact quoted (.inr rfl) split
  · next c rest _ _ =>
      split at split
      · next start =>
          cases split
          refine ⟨c, _, rfl, ?_, ?_⟩ <;> rintro rfl <;> exact absurd start (by decide)
      · cases split
  · cases split

namespace LineToken.Classified

variable {token : LineToken} (classified : token.Classified)
include classified

theorem startsKey {key : Text} (hasKey : token.key = some key) : key.StartsKey := by
  rw [classified.facts_eq] at hasKey
  obtain ⟨⟨_, isKey⟩, _⟩ := KeyedLine.splitKeyValue?_eq_some (LineFacts.splitKeyValue?_body hasKey)
  exact KeyedLine.startsKey_of_splitKey? isKey

theorem startsKey_keyedText (hasKey : token.key.isSome) : token.keyedText.StartsKey := by
  obtain ⟨key, isKey⟩ := Option.isSome_iff_exists.mp hasKey
  unfold LineToken.keyedText
  rw [isKey]
  dsimp only [Option.getD_some]
  split
  · exact (classified.startsKey isKey).append _
  · exact ((classified.startsKey isKey).append _).append _

theorem startsKey_ofModule : (ShellBlock.ofModule token).key.StartsKey := by
  change (token.key.getD _).StartsKey
  cases hasKey : token.key with
  | none => exact ⟨'s', _, rfl, by decide, by decide⟩
  | some key => exact classified.startsKey hasKey

end LineToken.Classified

namespace ShellBlock

theorem startsKey_ofFragment (token : LineToken) : (ofFragment token).key.StartsKey :=
  ⟨'s', _, rfl, by decide, by decide⟩

/-- The key of a script starts with the collection of the module or with the module's name. -/
theorem startsKey_scriptKey {key : Text} (starts : key.StartsKey) : (scriptKey key).StartsKey := by
  have moved (name : Text) (isName : name.StartsKey) :
      Text.StartsKey (key.take (key.length - (Catalog.moduleName key).length) ++ name) := by
    obtain ⟨c, rest, rfl, start⟩ := starts
    cases List.length (c :: rest) - (Catalog.moduleName (c :: rest)).length with
    | zero => exact isName
    | succ count => exact ⟨c, _, rfl, start⟩
  unfold scriptKey
  dsimp only
  split
  · exact moved _ ⟨'s', _, rfl, by decide, by decide⟩
  · split
    · exact moved _ ⟨'w', _, rfl, by decide, by decide⟩
    · exact starts

theorem startsKey_headerText {block : ShellBlock} (starts : block.key.StartsKey) :
    block.headerText.StartsKey := by
  unfold headerText keyLine
  split
  · split
    · exact (starts.append _).append _
    · exact starts.append _
  · refine Text.StartsKey.append (Text.StartsKey.append ?_ _) _
    split
    · exact starts
    · exact startsKey_scriptKey starts

end ShellBlock

namespace Tracker

variable {source done : List LineToken} {part next : Part} {tracker other : Tracker}
  {token : LineToken}

/-! ## Written lines -/

/-- Where the first line of a document goes. In the incremental mode a list of tasks may start with
comments. -/
def firstPart (mode : RebuildMode) : FileKind → Part
  | .playbook => .outside
  | _ => .list (mode = .incremental)

/-- The lines of the document lead to the part, and those that are copied from the source are copied
in their order. -/
def Written (source done : List LineToken) (tracker : Tracker) (part : Part) : Prop :=
  ∃ rows, tracker.out = leading tracker.mode ++ rows.map Row.text ∧
    Outline.Path tracker.mode source (firstPart tracker.mode tracker.kind) rows part ∧
    (rows.filterMap Row.copied).Sublist done

theorem Written.append (written : Written source done tracker part) (lines : List Text)
    (path : Outline.Path tracker.mode source part (fresh lines) next)
    (mode : other.mode = tracker.mode) (kind : other.kind = tracker.kind)
    (out : other.out = tracker.out ++ lines) :
    Written source done other next := by
  obtain ⟨rows, same, before, copied⟩ := written
  refine ⟨rows ++ fresh lines, ?_, ?_, ?_⟩
  · rw [out, same, mode, List.map_append, map_text_fresh, List.append_assoc]
  · rw [mode, kind]
    exact before.append path
  · rw [List.filterMap_append, filterMap_copied_fresh, List.append_nil]
    exact copied

theorem Written.emitLine (written : Written source done tracker part) {line : Text}
    (follows : Follows tracker.mode source part { text := line } next) :
    Written source done (tracker.emitLine line) next :=
  written.append [line] (.single follows) rfl rfl rfl

/-- A line that is copied from the source. -/
theorem Written.copy (written : Written source done tracker part) {line : Text}
    (follows : Follows tracker.mode source part ⟨line, some token⟩ next) :
    Written source (done ++ [token]) (tracker.emitLine line) next := by
  obtain ⟨rows, same, before, copied⟩ := written
  refine ⟨rows ++ [⟨line, some token⟩], ?_, before.append (.single follows), ?_⟩
  · change tracker.out ++ [line] = leading tracker.mode ++ (rows ++ [_]).map Row.text
    rw [List.map_append, ← List.append_assoc, ← same]
    rfl
  · rw [List.filterMap_append]
    exact copied.append_right [token]

theorem Written.concat (written : Written source done tracker part) (token : LineToken) :
    Written source (done ++ [token]) tracker part := by
  obtain ⟨rows, same, before, copied⟩ := written
  exact ⟨rows, same, before, copied.trans (List.sublist_append_left ..)⟩

/-! ## Open sections -/

/-- The open sections agree with the part to which the lines have led: tasks are open where they may
stand, and the blocks of a task stand where the keys of tasks do. Nothing has been written of the
first task of a list before its list marker. -/
structure Frame (part : Part) (tracker : Tracker) : Prop where
  home : tracker.kind = .playbook ∧ part.InPlaybook ∨
    tracker.kind = .taskList ∧ tracker.nesting.play = none ∧ ∃ started, part = .list started
  started : tracker.mode = .incremental → part = .list true
  play : tracker.nesting.play.isSome → part = .play ∨ part = .tasks
  taskSection : tracker.nesting.taskSection.isSome →
    tracker.nesting.play.isSome ∧ part = .tasks
  task : tracker.nesting.task.isSome → tracker.atTaskPosition ∧ part.HoldsTasks
  pending : part = .list false → tracker.nesting.task.isSome → tracker.pendingDash
  remembered : ∀ block placement, tracker.openAction = some (.shell block placement) →
    placement.depth = taskKeyColumn ∧ part.IsStarted
  reopened : ∀ placement, tracker.reopened = some placement →
    placement.depth = taskKeyColumn ∧ part.IsStarted

/-- The column stands in the part where a key may stand below which more lines go. -/
def KeyStands (mode : RebuildMode) (part : Part) (column : Nat) : Prop :=
  part = .outside ∨ part.IsStarted ∧ playKeyColumn ≤ column ∧
    (mode = .incremental → taskKeyColumn ≤ column)

/-- The keys below which lines are placed stand deep enough. -/
structure Keys (part : Part) (tracker : Tracker) : Prop where
  last : ∀ column, tracker.lastKeyColumn = some column →
    part = .outside ∨ part.IsStarted ∧ playKeyColumn ≤ column
  openKey : ∀ key, tracker.nesting.openKey = some key →
    KeyStands tracker.mode part key.depth ∧
      ∀ inner, key.innerLiteral = some inner → KeyStands tracker.mode part inner.depth

/-- The lines of the document have led to a part that agrees with what is open. -/
def Laid (source done : List LineToken) (tracker : Tracker) : Prop :=
  ∃ part, Written source done tracker part ∧ Frame part tracker ∧ Keys part tracker

theorem Laid.concat (laid : Laid source done tracker) (token : LineToken) :
    Laid source (done ++ [token]) tracker := by
  obtain ⟨part, written, stands⟩ := laid
  exact ⟨part, written.concat token, stands⟩

/-- Tasks may stand where a task may start, once its list is open. -/
theorem Frame.holdsTasks (frame : Frame part tracker) (position : tracker.atTaskPosition)
    (hasSection : tracker.nesting.play.isSome → tracker.nesting.taskSection.isSome) :
    part.HoldsTasks := by
  rcases frame.home with ⟨isPlaybook, _⟩ | ⟨_, _, started, rfl⟩
  · rw [atTaskPosition, isPlaybook] at position
    exact .inl (frame.taskSection (hasSection position)).2
  · exact .inr ⟨started, rfl⟩

/-- In a playbook tasks are only in plays. -/
theorem Frame.position_of_play (frame : Frame part tracker) (inPlay : tracker.nesting.play.isSome) :
    tracker.atTaskPosition := by
  rcases frame.home with ⟨isPlaybook, _⟩ | ⟨isList, _⟩
  · rw [atTaskPosition, isPlaybook]
    exact inPlay
  · rw [atTaskPosition, isList]

/-- What no task may be opened in is the outside of plays. -/
theorem Frame.outside_of_not_position (frame : Frame part tracker)
    (elsewhere : ¬ tracker.atTaskPosition) :
    part.InPlaybook ∧ tracker.nesting.play = none ∧ tracker.nesting.task = none ∧
      tracker.nesting.taskSection = none := by
  have noPlay : tracker.nesting.play = none := by
    by_contra inPlay
    exact elsewhere (frame.position_of_play (Option.isSome_iff_ne_none.mpr inPlay))
  refine ⟨?_, noPlay, ?_, ?_⟩
  · rcases frame.home with ⟨_, inPlaybook⟩ | ⟨isList, _⟩
    · exact inPlaybook
    · rw [atTaskPosition, isList] at elsewhere
      exact (elsewhere rfl).elim
  · by_contra inTask
    exact elsewhere (frame.task (Option.isSome_iff_ne_none.mpr inTask)).1
  · by_contra inSection
    have inPlay := (frame.taskSection (Option.isSome_iff_ne_none.mpr inSection)).1
    rw [noPlay] at inPlay
    cases inPlay

/-- The state of a document when a section is left has no task open. -/
theorem Frame.leaveTask (frame : Frame part tracker) (nesting : Nesting) (pendingDash : Bool)
    (noTask : nesting.task = none) (play : nesting.play.isSome → tracker.nesting.play.isSome)
    (taskSection : nesting.taskSection.isSome →
      tracker.nesting.taskSection.isSome ∧ nesting.play = tracker.nesting.play) :
    Frame part { tracker with nesting, pendingDash } where
  home := by
    refine frame.home.imp_right fun ⟨isList, noPlay, inList⟩ => ⟨isList, ?_, inList⟩
    by_contra inPlay
    have := play (Option.isSome_iff_ne_none.mpr inPlay)
    rw [noPlay] at this
    cases this
  started := frame.started
  play inPlay := frame.play (play inPlay)
  taskSection inSection := by
    obtain ⟨wasSection, samePlay⟩ := taskSection inSection
    obtain ⟨inPlay, inTasks⟩ := frame.taskSection wasSection
    exact ⟨samePlay ▸ inPlay, inTasks⟩
  task inTask := by
    rw [show ({ tracker with nesting, pendingDash } : Tracker).nesting.task = none from noTask]
      at inTask
    cases inTask
  pending _ inTask := by
    rw [show ({ tracker with nesting, pendingDash } : Tracker).nesting.task = none from noTask]
      at inTask
    cases inTask
  remembered block placement remembered := by
    have inTask := task_isSome_of_openAction remembered
    rw [show ({ tracker with nesting, pendingDash } : Tracker).nesting.task = none from noTask]
      at inTask
    cases inTask
  reopened := frame.reopened

/-- What was open is still open when a line has begun a task. -/
theorem Frame.afterItem (frame : Frame part tracker) : Frame part.afterItem tracker where
  home := by
    refine frame.home.imp (fun ⟨isPlaybook, inPlaybook⟩ => ⟨isPlaybook, ?_⟩)
      fun ⟨isList, noPlay, started, same⟩ => ⟨isList, noPlay, true, same ▸ rfl⟩
    cases part with
    | list started => exact (inPlaybook started rfl).elim
    | outside | play | tasks => exact inPlaybook
  started incremental := by rw [frame.started incremental]; rfl
  play inPlay := by rcases frame.play inPlay with rfl | rfl <;> simp [Part.afterItem]
  taskSection inSection := by
    obtain ⟨inPlay, rfl⟩ := frame.taskSection inSection
    exact ⟨inPlay, rfl⟩
  task inTask := ⟨(frame.task inTask).1, (frame.task inTask).2.afterItem⟩
  pending isEmpty := (part.isStarted_afterItem isEmpty).elim
  remembered block placement remembered :=
    ⟨(frame.remembered block placement remembered).1, part.isStarted_afterItem⟩
  reopened placement reopened := ⟨(frame.reopened placement reopened).1, part.isStarted_afterItem⟩

/-- A play goes on with a key. -/
theorem Frame.toPlay (frame : Frame part tracker) (inPlay : tracker.nesting.play.isSome)
    (noTask : tracker.nesting.task = none) (noSection : tracker.nesting.taskSection = none) :
    Frame .play tracker where
  home := by
    refine frame.home.imp (fun ⟨isPlaybook, _⟩ => ⟨isPlaybook, nofun⟩) ?_
    rintro ⟨_, noPlay, _⟩
    rw [noPlay] at inPlay
    cases inPlay
  started incremental := by
    have := frame.started incremental
    rcases frame.play inPlay with rfl | rfl <;> cases this
  play _ := .inl rfl
  taskSection inSection := by rw [noSection] at inSection; cases inSection
  task inTask := by rw [noTask] at inTask; cases inTask
  pending := nofun
  remembered block placement remembered :=
    ⟨(frame.remembered block placement remembered).1, nofun⟩
  reopened placement reopened := ⟨(frame.reopened placement reopened).1, nofun⟩

/-- A list of tasks is opened in a play. -/
theorem Frame.openSection (frame : Frame part tracker) (inPlay : tracker.nesting.play.isSome)
    (noTask : tracker.nesting.task = none) (sourceIndent : Nat) :
    Frame .tasks
      (tracker.withNesting { tracker.nesting with taskSection := some sourceIndent }) where
  home := by
    refine frame.home.imp (fun ⟨isPlaybook, _⟩ => ⟨isPlaybook, nofun⟩) ?_
    rintro ⟨_, noPlay, _⟩
    rw [noPlay] at inPlay
    cases inPlay
  started incremental := by
    have := frame.started incremental
    rcases frame.play inPlay with rfl | rfl <;> cases this
  play _ := .inr rfl
  taskSection _ := ⟨inPlay, rfl⟩
  task inTask := by
    change tracker.nesting.task.isSome at inTask
    rw [noTask] at inTask
    cases inTask
  pending := nofun
  remembered block placement remembered :=
    ⟨(frame.remembered block placement remembered).1, nofun⟩
  reopened placement reopened := ⟨(frame.reopened placement reopened).1, nofun⟩

/-- Outside of plays the lines lead outside. -/
theorem Frame.toOutside (frame : Frame part tracker) (elsewhere : ¬ tracker.atTaskPosition) :
    Frame .outside tracker := by
  obtain ⟨inPlaybook, noPlay, noTask, noSection⟩ := frame.outside_of_not_position elsewhere
  refine ⟨?_, ?_, ?_, ?_, ?_, nofun, ?_, ?_⟩
  · refine frame.home.imp (fun ⟨isPlaybook, _⟩ => ⟨isPlaybook, nofun⟩) ?_
    rintro ⟨_, _, started, same⟩
    exact (inPlaybook started same).elim
  · intro incremental
    exact (inPlaybook true (frame.started incremental)).elim
  · intro inPlay
    rw [noPlay] at inPlay
    cases inPlay
  · intro inSection
    rw [noSection] at inSection
    cases inSection
  · intro inTask
    rw [noTask] at inTask
    cases inTask
  · exact fun block placement remembered =>
      ⟨(frame.remembered block placement remembered).1, nofun⟩
  · exact fun placement reopened => ⟨(frame.reopened placement reopened).1, nofun⟩

/-! ## Keys that stand above -/

theorem KeyStands.move {mode : RebuildMode} {column : Nat} (stands : KeyStands mode part column)
    (outside : part = .outside → next = .outside) (isStarted : next.IsStarted) :
    KeyStands mode next column :=
  stands.imp outside fun ⟨_, deep⟩ => ⟨isStarted, deep⟩

theorem Keys.move (keys : Keys part tracker) (outside : part = .outside → next = .outside)
    (isStarted : next.IsStarted) : Keys next tracker where
  last column last := (keys.last column last).imp outside fun ⟨_, deep⟩ => ⟨isStarted, deep⟩
  openKey key isOpen :=
    ⟨(keys.openKey key isOpen).1.move outside isStarted, fun inner isInner =>
      ((keys.openKey key isOpen).2 inner isInner).move outside isStarted⟩

/-- The keys that were there are there as long as none is added. -/
theorem Keys.narrow (keys : Keys part tracker) (mode : other.mode = tracker.mode)
    (last : other.lastKeyColumn = tracker.lastKeyColumn ∨ other.lastKeyColumn = none)
    (openKey : other.nesting.openKey = tracker.nesting.openKey ∨ other.nesting.openKey = none) :
    Keys part other where
  last column isLast := by
    rcases last with same | closed
    · exact keys.last column (same ▸ isLast)
    · rw [closed] at isLast
      cases isLast
  openKey key isOpen := by
    rw [mode]
    rcases openKey with same | closed
    · exact keys.openKey key (same ▸ isOpen)
    · rw [closed] at isOpen
      cases isOpen

theorem keys_afterKey {column : Nat} (tracker : Tracker) (token : LineToken)
    (stands : KeyStands tracker.mode part column) : Keys part (tracker.afterKey token column) where
  last other isLast := by
    obtain rfl := Option.some.inj isLast
    exact stands.imp_right fun ⟨isStarted, deep, _⟩ => ⟨isStarted, deep⟩
  openKey key isOpen := by
    simp only [afterKey] at isOpen
    split at isOpen
    · obtain rfl := Option.some.inj isOpen
      exact ⟨stands, nofun⟩
    · cases isOpen

theorem keyStands_task {mode : RebuildMode} (isStarted : part.IsStarted) :
    KeyStands mode part taskKeyColumn :=
  .inr ⟨isStarted, by decide, fun _ => Nat.le_refl _⟩

/-! ## Writing the keys of sections -/

theorem Laid.closeKey (laid : Laid source done tracker) : Laid source done tracker.closeKey := by
  obtain ⟨part, written, frame, keys⟩ := laid
  exact ⟨part, written, { frame with }, keys.narrow rfl (.inl rfl) (.inr rfl)⟩

theorem Laid.note (laid : Laid source done tracker) (token : LineToken)
    (reason : AmbiguityReason) : Laid source done (tracker.note token reason) := by
  obtain ⟨part, written, frame, keys⟩ := laid
  exact ⟨part, written, { frame with }, keys.narrow rfl (.inl rfl) (.inl rfl)⟩

/-- The state of a document when a section is left. -/
theorem Laid.leaveTask (laid : Laid source done tracker) (nesting : Nesting) (pendingDash : Bool)
    (noTask : nesting.task = none) (play : nesting.play.isSome → tracker.nesting.play.isSome)
    (taskSection : nesting.taskSection.isSome →
      tracker.nesting.taskSection.isSome ∧ nesting.play = tracker.nesting.play)
    (openKey : nesting.openKey = tracker.nesting.openKey ∨ nesting.openKey = none) :
    Laid source done { tracker with nesting, pendingDash } := by
  obtain ⟨part, written, frame, keys⟩ := laid
  exact ⟨part, written, frame.leaveTask nesting pendingDash noTask play taskSection,
    keys.narrow rfl (.inl rfl) openKey⟩

theorem Laid.closeTask (laid : Laid source done tracker) : Laid source done tracker.closeTask :=
  laid.leaveTask _ false rfl id (fun inSection => ⟨inSection, rfl⟩) (.inl rfl)

theorem Laid.closeTasks (laid : Laid source done tracker) :
    Laid source done
      { tracker with nesting := tracker.nesting.closeTasks, pendingDash := false } :=
  laid.leaveTask _ false rfl id nofun (.inr rfl)

/-- The key of a task stands after the list marker of its task or below the first key. -/
theorem Laid.emitTaskKey (laid : Laid source done tracker) (inTask : tracker.nesting.task.isSome)
    (token : LineToken) : Laid source done (tracker.emitTaskKey token) := by
  obtain ⟨part, written, frame, _⟩ := laid
  unfold Tracker.emitTaskKey emitTaskLine
  cases pending : tracker.pendingDash with
  | true =>
      rw [if_pos (show tracker.closeKey.pendingDash = true from pending)]
      have isStarted := part.isStarted_afterItem
      refine ⟨part.afterItem, ?_, ?_, keys_afterKey _ token (keyStands_task isStarted)⟩
      · exact written.emitLine (.item (frame.task inTask).2 (isTaskItem_indented _))
      · exact { frame.afterItem with pending := fun isEmpty => (isStarted isEmpty).elim }
  | false =>
      have noDash : ¬ tracker.closeKey.pendingDash := Bool.eq_false_iff.mp pending
      rw [if_neg noDash]
      have isStarted : part.IsStarted := by
        intro isEmpty
        have := frame.pending isEmpty inTask
        rw [pending] at this
        cases this
      refine ⟨part, ?_, { frame with }, keys_afterKey _ token (keyStands_task isStarted)⟩
      exact written.emitLine (.inner isStarted (isInner_indented (Nat.le_refl _) _))

/-- The key of a play in which no list of tasks is open. -/
theorem Laid.emitKey_play (laid : Laid source done tracker)
    (inPlay : tracker.nesting.play.isSome) (noTask : tracker.nesting.task = none)
    (noSection : tracker.nesting.taskSection = none) (startsKey : token.keyedText.StartsKey) :
    Laid source done (tracker.emitKey token playKeyColumn) := by
  obtain ⟨part, written, frame, _⟩ := laid
  have inFrame := frame.toPlay inPlay noTask noSection
  refine ⟨.play, ?_, { inFrame with }, keys_afterKey _ token (.inr ⟨nofun, Nat.le_refl _, ?_⟩)⟩
  · exact written.emitLine (.key (frame.play inPlay) (isPlayKey_indented startsKey))
  · intro incremental
    cases inFrame.started incremental

/-- A key that stands outside of plays. -/
theorem Laid.emitKey_outside (laid : Laid source done tracker)
    (elsewhere : ¬ tracker.atTaskPosition) (startsKey : token.keyedText.StartsKey) :
    Laid source done (tracker.emitKey token 0) := by
  obtain ⟨part, written, frame, _⟩ := laid
  obtain ⟨inPlaybook, _⟩ := frame.outside_of_not_position elsewhere
  refine ⟨.outside, ?_, { frame.toOutside elsewhere with }, keys_afterKey _ token (.inl rfl)⟩
  have onTop : indented 0 token.keyedText = token.keyedText := by
    rw [indented_of_ne_nil 0 token.keyedText_ne_nil]
    rfl
  have follows : Follows tracker.mode source part { text := indented 0 token.keyedText }
      .outside := by
    rw [onTop]
    exact .top inPlaybook token.keyedText_ne_nil startsKey.column_eq startsKey.not_isTopItem
  exact written.emitLine follows

/-! ## Opening lists and tasks -/

theorem ensureTaskSection_nesting (tracker : Tracker) (sourceIndent : Nat) :
    (tracker.ensureTaskSection sourceIndent).nesting.play = tracker.nesting.play ∧
      (tracker.ensureTaskSection sourceIndent).nesting.task = tracker.nesting.task ∧
      (tracker.nesting.play.isSome →
        (tracker.ensureTaskSection sourceIndent).nesting.taskSection.isSome) := by
  unfold ensureTaskSection
  split
  · exact ⟨rfl, rfl, fun _ => rfl⟩
  · next closed =>
      refine ⟨rfl, rfl, fun inPlay => ?_⟩
      rw [inPlay, Bool.true_and, Option.isNone_iff_eq_none] at closed
      exact Option.isSome_iff_ne_none.mpr closed

theorem atTaskPosition_ensureTaskSection (position : tracker.atTaskPosition) (sourceIndent : Nat) :
    (tracker.ensureTaskSection sourceIndent).atTaskPosition := by
  unfold ensureTaskSection
  split
  · next missing =>
      have inPlay := (Bool.and_eq_true_iff.mp missing).1
      simp only [atTaskPosition, withNesting, emit, emitLine]
      split
      · exact inPlay
      · rfl
      · rfl
  · exact position

/-- A play has a list of tasks after one has been ensured. -/
theorem Laid.ensureTaskSection (laid : Laid source done tracker)
    (noTask : tracker.nesting.task = none) (sourceIndent : Nat) :
    Laid source done (tracker.ensureTaskSection sourceIndent) := by
  obtain ⟨part, written, frame, keys⟩ := laid
  unfold Tracker.ensureTaskSection
  split
  · next missing =>
      have inPlay := (Bool.and_eq_true_iff.mp missing).1
      have notOutside : part = .outside → Part.tasks = .outside := by
        rintro rfl
        rcases frame.play inPlay with same | same <;> cases same
      refine ⟨.tasks, ?_, { frame.openSection inPlay noTask sourceIndent with },
        (keys.move notOutside nofun).narrow rfl (.inl rfl) (.inl rfl)⟩
      exact written.emitLine (.opener (frame.play inPlay)
        (isPlayKey_indented ⟨'t', _, rfl, by decide, by decide⟩) (.inl rfl))
  · exact ⟨part, written, frame, keys⟩

/-- A task may be opened after its list; nothing has been written of it. -/
theorem Laid.ensureTask (laid : Laid source done tracker) (canHold : tracker.canHoldTask)
    (keyIndent : Nat) :
    Laid source done (tracker.ensureTask keyIndent) ∧
      (tracker.ensureTask keyIndent).nesting.task.isSome := by
  by_cases inTask : tracker.nesting.task.isSome
  · rw [ensureTask_of_task inTask]
    exact ⟨laid, inTask⟩
  · have noTask : tracker.nesting.task = none := by simpa using inTask
    have position : tracker.atTaskPosition := by
      rwa [canHoldTask_of_noTask (by simp [noTask])] at canHold
    unfold Tracker.ensureTask
    rw [if_neg inTask]
    obtain ⟨play, _, hasSection⟩ := tracker.ensureTaskSection_nesting (keyIndent - indentStep)
    obtain ⟨part, written, frame, keys⟩ := laid.ensureTaskSection noTask (keyIndent - indentStep)
    have stillPosition := atTaskPosition_ensureTaskSection position (keyIndent - indentStep)
    have holdsTasks := frame.holdsTasks stillPosition (play ▸ hasSection)
    refine ⟨⟨part, written, ?_, keys.narrow rfl (.inl rfl) (.inl rfl)⟩, rfl⟩
    exact { frame with
      task := fun _ => ⟨stillPosition, holdsTasks⟩
      pending := fun _ _ => rfl
      remembered := nofun }

end Tracker

end PlaybookRepair
