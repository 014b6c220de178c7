import PlaybookRepair.Proofs.Rebuild.Account
import PlaybookRepair.Proofs.Rebuild.Script
import PlaybookRepair.Proofs.Tracker.Push

/-!
# The ledger of a run

At every point of a run the lines that the tracker has written, with those of the open shell block
in their place, are the lines of a sequence of pieces (`Recorded`) which is an account of the lines
that have been read (`Account`). One more line of the source is absorbed by the open block, or the
block is written and the line is placed. Either way the pieces change in one of a few ways
(`Change`, `Recorded.push`), by which they stay an account: the line is entered once, or it is
dropped with an excuse. The ledger of a whole run (`ledger_run`) follows.
-/

namespace PlaybookRepair

namespace Rebuild

/-- The lines with content. -/
def contentLines (tokens : List LineToken) : List LineToken :=
  tokens.filter fun token => !token.content.isEmpty

theorem contentLines_append (first second : List LineToken) :
    contentLines (first ++ second) = contentLines first ++ contentLines second :=
  List.filter_append ..

theorem contentLines_concat_of_nil {tokens : List LineToken} {token : LineToken}
    (noContent : token.content = []) : contentLines (tokens ++ [token]) = contentLines tokens := by
  simp [contentLines, noContent]

theorem contentLines_concat_of_ne_nil {tokens : List LineToken} {token : LineToken}
    (hasContent : token.content ≠ []) :
    contentLines (tokens ++ [token]) = contentLines tokens ++ [token] := by
  simp [contentLines, hasContent]

end Rebuild

open Rebuild (contentLines)

/-- The lines with which a document starts before anything is written. -/
def leading : RebuildMode → List Text
  | .canonical => ["---".toList]
  | .incremental => []

/-- The lines of a document with the given pieces. -/
def documentLines (mode : RebuildMode) (pieces : List Piece) : List Text :=
  leading mode ++ pieces.flatMap (Piece.texts mode)

theorem documentLines_append (mode : RebuildMode) (pieces more : List Piece) :
    documentLines mode (pieces ++ more) =
      documentLines mode pieces ++ more.flatMap (Piece.texts mode) := by
  rw [documentLines, documentLines, List.flatMap_append, List.append_assoc]

namespace Tracker

/-- The shell block that the tracker remembers is the last one among the pieces and no bare key. It
stands at the place where the tracker looks for it and has the given script. -/
def Remembers (mode : RebuildMode) (pieces : List Piece) (script : Option Script)
    (block : ShellBlock) (placement : Placement) : Prop :=
  ∃ above below opener lines,
    pieces = above ++ .script opener lines block placement.depth placement.dashed :: below ∧
    script = some ⟨opener, lines.reduceOption⟩ ∧
    placement.start = (documentLines mode above).length ∧
    placement.length = (shellLines mode block placement).length ∧
    block.isBare = false ∧ ∀ piece ∈ below, piece.isScript = false

/-- The open task has a shell block that had been written before it was opened again. -/
def IsRejoined (tracker : Tracker) : Prop :=
  tracker.nesting.task.isSome ∧ tracker.nesting.shell.isSome ∧ tracker.reopened.isSome

theorem IsRejoined.withShell {tracker : Tracker} (again : tracker.IsRejoined)
    (block : ShellBlock) :
    (tracker.withNesting { tracker.nesting with shell := some block }).IsRejoined :=
  ⟨again.1, rfl, again.2.2⟩

/-- The pieces are what the tracker has written, with the open shell block where it is to be
written: after everything else, unless it is open again. The lines of an earlier version of that
block may still be in its place. -/
inductive Recorded (tracker : Tracker) (script : Option Script) : List Piece → Prop
  | closed {pieces : List Piece} (shell : tracker.nesting.shell = none)
      (reopened : tracker.reopened = none) (out : tracker.out = documentLines tracker.mode pieces)
      (remembers : ∀ block placement, tracker.openAction = some (.shell block placement) →
        Remembers tracker.mode pieces script block placement) :
      Recorded tracker script pieces
  | opened {above below : List Piece} {old : List Text} {block : ShellBlock} {opener : LineToken}
      {lines : List (Option LineToken)} (shell : tracker.nesting.shell = some block)
      (out : tracker.out = documentLines tracker.mode above ++ old ++
        below.flatMap (Piece.texts tracker.mode))
      (start : tracker.shellPlacement.start = (documentLines tracker.mode above).length)
      (length : tracker.shellPlacement.length = old.length)
      (last : below = [] ∨ tracker.IsRejoined) (notBare : below = [] ∨ block.isBare = false)
      (noScript : ∀ piece ∈ below, piece.isScript = false)
      (isScript : script = some ⟨opener, lines.reduceOption⟩) :
      Recorded tracker script (above ++ .script opener lines block tracker.shellPlacement.depth
        tracker.shellPlacement.dashed :: below)

theorem recorded_start (mode : RebuildMode) (kind : FileKind) :
    Recorded (.start mode kind) none [] := by
  refine .closed rfl rfl ?_ ?_
  · cases mode <;> rfl
  · intro block placement remembered
    cases remembered

section

variable {tracker after : Tracker} {script : Option Script} {pieces more : List Piece}

theorem Recorded.of_closed (recorded : Recorded tracker script pieces)
    (shell : tracker.nesting.shell = none) :
    tracker.reopened = none ∧ tracker.out = documentLines tracker.mode pieces ∧
      ∀ block placement, tracker.openAction = some (.shell block placement) →
        Remembers tracker.mode pieces script block placement := by
  cases recorded with
  | closed _ reopened out remembers => exact ⟨reopened, out, remembers⟩
  | opened isOpen =>
      rw [shell] at isOpen
      cases isOpen

theorem Recorded.of_open {block : ShellBlock} (recorded : Recorded tracker script pieces)
    (shell : tracker.nesting.shell = some block) :
    ∃ above below old opener lines,
      pieces = above ++ .script opener lines block tracker.shellPlacement.depth
        tracker.shellPlacement.dashed :: below ∧
      tracker.out = documentLines tracker.mode above ++ old ++
        below.flatMap (Piece.texts tracker.mode) ∧
      tracker.shellPlacement.start = (documentLines tracker.mode above).length ∧
      tracker.shellPlacement.length = old.length ∧
      (below = [] ∨ tracker.IsRejoined) ∧ script = some ⟨opener, lines.reduceOption⟩ := by
  cases recorded with
  | closed isClosed =>
      rw [isClosed] at shell
      cases shell
  | opened isOpen out start length last _ _ isScript =>
      obtain rfl := Option.some.inj (shell.symm.trans isOpen)
      exact ⟨_, _, _, _, _, rfl, out, start, length, last, isScript⟩

/-! ## Writing the open block -/

/-- The lines of a block depend on the column and the list marker, not on the place. -/
theorem texts_script (mode : RebuildMode) (opener : LineToken) (lines : List (Option LineToken))
    (block : ShellBlock) (placement : Placement) :
    (Piece.script opener lines block placement.depth placement.dashed).texts mode =
      shellLines mode block placement :=
  rfl

/-- Writing the open block puts its lines in its place. -/
theorem Recorded.flushShell (recorded : Recorded tracker script pieces) :
    ∃ blanks, (blanks = [] ∨ blanks = [.empty]) ∧ tracker.flushShell.reopened = none ∧
      Recorded tracker.flushShell script (pieces ++ blanks) := by
  cases recorded with
  | closed shell reopened out remembers =>
      rw [flushShell_of_none shell]
      exact ⟨[], .inl rfl, reopened, by simpa using .closed shell reopened out remembers⟩
  | @opened above below old block opener lines shell out start length _ _ noScript isScript =>
      obtain ⟨blanks, areBlank, written⟩ := flushShell_out shell out start length
      have closes := tracker.closes_closeShell block
      rw [flushShell_of_some shell] at written ⊢
      obtain ⟨empties, areEmpty, same⟩ : ∃ empties, (empties = [] ∨ empties = [Piece.empty]) ∧
          blanks = empties.flatMap (Piece.texts tracker.mode) := by
        rcases areBlank with rfl | rfl
        · exact ⟨[], .inl rfl, rfl⟩
        · exact ⟨[.empty], .inr rfl, rfl⟩
      refine ⟨empties, areEmpty, closes.reopened, .closed closes.shell closes.reopened ?_ ?_⟩
      · rw [written, closes.mode, same, documentLines_append, documentLines_append,
          List.flatMap_cons, texts_script]
        simp only [List.append_assoc]
      · intro closed placement remembered
        have notBare := closes.notBare closed placement remembered
        obtain ⟨rfl, rfl⟩ := closes.remembers closed placement remembered
        rw [closes.mode]
        exact ⟨above, below ++ empties, opener, lines, by simp, isScript, start, rfl, notBare,
          List.forall_mem_append.mpr ⟨noScript, Piece.noScript_of_optional (.inr rfl) areEmpty⟩⟩

/-- Steps that only add lines to a document without an open block add pieces. -/
theorem Recorded.adds (recorded : Recorded tracker script pieces)
    (shell : tracker.nesting.shell = none) (noScript : ∀ piece ∈ more, piece.isScript = false)
    (adds : Adds tracker after (more.flatMap (Piece.texts tracker.mode))) :
    Recorded after script (pieces ++ more) := by
  obtain ⟨reopened, out, remembers⟩ := recorded.of_closed shell
  refine .closed (adds.shell.trans shell) (adds.reopened.trans reopened) ?_ ?_
  · rw [adds.out, out, adds.mode, documentLines_append]
  · intro block placement remembered
    obtain ⟨above, below, opener, lines, rfl, isScript, start, length, notBare, last⟩ :=
      remembers block placement (adds.remembers block placement remembered)
    rw [adds.mode]
    exact ⟨above, below ++ more, opener, lines, by simp, isScript, start, length, notBare,
      List.forall_mem_append.mpr ⟨last, noScript⟩⟩

end

/-! ## How the pieces change -/

/-- How the pieces change with a line of the source, and which line is entered, if one is; `after` is
the tracker after the line. Before anything else, lines may be added that stand for nothing in the
source. The line goes to the end, or the open block takes it. That block is a new one at the end, or
one among the pieces, perhaps taken up again; a blank line waits in it. -/
inductive Change (after : Tracker) : List Piece → List LineToken → List Piece → Prop
  | nothing {pieces : List Piece} : Change after pieces [] pieces
  | silent {pieces changed : List Piece} {entered : List LineToken} {piece : Piece}
      (isSilent : piece.IsSilent) (rest : Change after (pieces ++ [piece]) entered changed) :
      Change after pieces entered changed
  | line {pieces : List Piece} {token : LineToken} {text : Text}
      (written : token.WrittenAs text) (closed : after.nesting.shell = none) :
      Change after pieces [token] (pieces ++ [.line token text])
  | opened {pieces : List Piece} {token : LineToken} {lines : List (Option LineToken)}
      {block : ShellBlock} {column : Nat} {dashed : Bool}
      (sound : (Piece.script token lines block column dashed).Sound)
      (holds : (Piece.script token lines block column dashed).sources = [token])
      (isOpen : after.nesting.shell = some block) :
      Change after pieces [token] (pieces ++ [.script token lines block column dashed])
  | waits {above below : List Piece} {opener : LineToken} {lines : List (Option LineToken)}
      {block : ShellBlock} {column : Nat} {dashed : Bool}
      (isOpen : after.nesting.shell = some block.pushBlank) :
      Change after (above ++ .script opener lines block column dashed :: below) []
        (above ++ .script opener lines block.pushBlank column dashed :: below)
  | takes {above below : List Piece} {opener token : LineToken} {lines : List (Option LineToken)}
      {block ready : ShellBlock} {column : Nat} {dashed : Bool}
      (isReady : ready = block ∨ ready = block.reopen) (hasContent : token.content ≠ [])
      (last : below = [] ∨ after.IsRejoined) (notBare : below = [] ∨ block.isBare = false)
      (isOpen : after.nesting.shell = some (ready.push token)) :
      Change after (above ++ .script opener lines block column dashed :: below) [token]
        (above ++ .script opener
          (lines ++ List.replicate ready.takenBlanks none ++ [some token]) (ready.push token)
          column dashed :: below)

/-- What stands for nothing in the source may come before. -/
theorem Change.after_silent {after : Tracker} {pieces more changed : List Piece}
    {entered : List LineToken} {piece : Piece} (optional : more = [] ∨ more = [piece])
    (isSilent : piece.IsSilent) (change : Change after (pieces ++ more) entered changed) :
    Change after pieces entered changed := by
  rcases optional with rfl | rfl
  · rwa [List.append_nil] at change
  · exact .silent isSilent change

/-- Changed pieces are an account of the earlier lines and the one that is entered. -/
theorem Change.account {after : Tracker} {pieces changed : List Piece}
    {entered kept : List LineToken} {rejoins : LineToken → Prop}
    (change : Change after pieces entered changed) (account : Account rejoins pieces kept)
    (later : ∀ token ∈ entered, ∀ earlier ∈ kept, earlier.line.number < token.line.number)
    (rejoining : after.IsRejoined → ∀ token ∈ entered, rejoins token) :
    Account rejoins changed (kept ++ entered) := by
  induction change with
  | nothing => rwa [List.append_nil]
  | silent isSilent _ ih => exact ih (account.append_silent isSilent) later rejoining
  | line written => exact account.append written rfl (later _ (List.mem_singleton_self _))
  | opened sound holds => exact account.append sound holds (later _ (List.mem_singleton_self _))
  | waits =>
      obtain ⟨gathered, aligned⟩ := account.sound_between
      rw [List.append_nil]
      exact account.replace ⟨gathered.pushBlank, aligned⟩ rfl
  | @takes above below opener token lines block ready _ _ isReady hasContent last =>
      obtain ⟨gathered, aligned⟩ := account.sound_between
      have isGathered : ready.Gathered opener lines := by
        rcases isReady with rfl | rfl
        · exact gathered
        · exact gathered.reopen
      refine account.extend ⟨isGathered.push hasContent, aligned⟩ ?_
        (later token (List.mem_singleton_self _))
        (last.imp_right fun again => rejoining again token (List.mem_singleton_self _))
      rw [Piece.sources, Piece.sources, ShellBlock.reduceOption_push, List.append_assoc]

/-! ## Entering a line -/

section

variable {tracker after : Tracker} {script : Option Script} {pieces : List Piece}
  {token : LineToken}

theorem isBare_push (block : ShellBlock) (token : LineToken) : (block.push token).isBare = false := by
  simp [ShellBlock.isBare, ShellBlock.push]

/-- A blank line waits in the open block. -/
theorem Recorded.absorb_blank (recorded : Recorded tracker script pieces) {block : ShellBlock}
    (shell : tracker.nesting.shell = some block)
    (isOpen : after = tracker.withNesting { tracker.nesting with shell := some block.pushBlank }) :
    ∃ changed, Recorded after script changed ∧ Change after pieces [] changed := by
  subst isOpen
  cases recorded with
  | closed isClosed =>
      rw [isClosed] at shell
      cases shell
  | opened isShell out start length last notBare noScript isScript =>
      obtain rfl := Option.some.inj (shell.symm.trans isShell)
      have still := last.imp_right (·.withShell block.pushBlank)
      exact ⟨_, .opened rfl out start length still notBare noScript isScript, .waits rfl⟩

/-- The open block takes a line. -/
theorem Recorded.absorb (recorded : Recorded tracker script pieces) {block : ShellBlock}
    (shell : tracker.nesting.shell = some block) (hasContent : token.content ≠ [])
    (isOpen : after =
      tracker.withNesting { tracker.nesting with shell := some (block.push token) }) :
    ∃ changed, Recorded after (script.map (·.add token)) changed ∧
      Change after pieces [token] changed := by
  subst isOpen
  cases recorded with
  | closed isClosed =>
      rw [isClosed] at shell
      cases shell
  | @opened _ _ _ _ _ lines isShell out start length last notBare noScript isScript =>
      obtain rfl := Option.some.inj (shell.symm.trans isShell)
      have still := last.imp_right (·.withShell (block.push token))
      have grown := ShellBlock.reduceOption_push lines block.takenBlanks token
      refine ⟨_, .opened rfl out start length still (.inr (isBare_push block token)) noScript ?_,
        .takes (.inl rfl) hasContent still notBare rfl⟩
      rw [isScript, Option.map_some, grown]
      rfl

/-- Supplied lines are pieces that hold nothing of the source. -/
theorem exists_supplied {supplied : List Text} (areSupplied : AreSupplied supplied)
    (mode : RebuildMode) :
    ∃ pieces, (pieces = [] ∨ pieces = [Piece.supplied]) ∧
      supplied = pieces.flatMap (Piece.texts mode) := by
  rcases areSupplied with rfl | rfl
  · exact ⟨[], .inl rfl, rfl⟩
  · exact ⟨[.supplied], .inr rfl, rfl⟩

/-- Supplied lines go to the end, and what a line does to the pieces comes after them. -/
theorem Recorded.adds_supplied (recorded : Recorded tracker script pieces)
    (shell : tracker.nesting.shell = none) {supplied : List Text}
    (areSupplied : AreSupplied supplied) (adds : Adds tracker after supplied) :
    ∃ more, Recorded after script (pieces ++ more) ∧
      ∀ {last entered changed}, Change last (pieces ++ more) entered changed →
        Change last pieces entered changed := by
  obtain ⟨more, optional, rfl⟩ := exists_supplied areSupplied tracker.mode
  exact ⟨more, recorded.adds shell (Piece.noScript_of_optional (.inl rfl) optional) adds,
    Change.after_silent optional (.inl rfl)⟩

/-- A line that is written goes to the end. -/
theorem Recorded.adds_line (recorded : Recorded tracker script pieces)
    (shell : tracker.nesting.shell = none) {supplied : List Text} {line : Text}
    (areSupplied : AreSupplied supplied) (adds : Adds tracker after (supplied ++ [line]))
    (written : token.WrittenAs line) :
    ∃ changed, Recorded after script changed ∧ Change after pieces [token] changed := by
  obtain ⟨more, optional, rfl⟩ := exists_supplied areSupplied tracker.mode
  have texts : more.flatMap (Piece.texts tracker.mode) ++ [line] =
      (more ++ [Piece.line token line]).flatMap (Piece.texts tracker.mode) := by
    rw [List.flatMap_append, List.flatMap_singleton]
    rfl
  rw [texts] at adds
  have noScript : ∀ piece ∈ more ++ [Piece.line token line], piece.isScript = false :=
    List.forall_mem_append.mpr
      ⟨Piece.noScript_of_optional (.inl rfl) optional, List.forall_mem_singleton.mpr rfl⟩
  have added := recorded.adds shell noScript adds
  rw [← List.append_assoc] at added
  exact ⟨_, added, .after_silent optional (.inl rfl) (.line written (adds.shell.trans shell))⟩

/-- A block that opens on a line with content starts a script and has gathered it. -/
theorem Opens.gathered {block : ShellBlock} (opens : Opens token block)
    (hasContent : token.content ≠ []) :
    ∃ lines, block.Gathered token lines ∧ (Script.start token).lines = lines.reduceOption ∧
      ∀ column dashed, (Piece.script token lines block column dashed).sources = [token] := by
  cases opens with
  | key isKey =>
      refine ⟨[], ShellBlock.gathered_ofModule isKey, ?_, ?_⟩
      · rw [Script.start, if_pos isKey.1]
        rfl
      · intro column dashed
        rw [Piece.sources, if_pos isKey.1]
        rfl
  | fragment isFragment =>
      have notKey := isFragment.role_ne
      refine ⟨[some token], ShellBlock.gathered_ofFragment isFragment hasContent, ?_, ?_⟩
      · rw [Script.start, if_neg notKey]
        rfl
      · intro column dashed
        rw [Piece.sources, if_neg notKey]
        rfl

/-- A block that opens on a line holds that line. -/
theorem Recorded.opens (recorded : Recorded tracker script pieces)
    (shell : tracker.nesting.shell = none) {block : ShellBlock} (opens : Opens token block)
    (hasContent : token.content ≠ [])
    (isOpen : after = tracker.withNesting { tracker.nesting with shell := some block }) :
    ∃ changed, Recorded after (some (.start token)) changed ∧
      Change after pieces [token] changed := by
  obtain ⟨lines, gathered, isScript, holds⟩ := opens.gathered hasContent
  obtain ⟨reopened, out, _⟩ := recorded.of_closed shell
  have isShell : after.nesting.shell = some block := by rw [isOpen]; rfl
  have fresh : after.reopened = none := by rw [isOpen]; exact reopened
  have same : after.out = documentLines after.mode pieces ++ [] ++
      [].flatMap (Piece.texts after.mode) := by
    rw [isOpen, List.flatMap_nil, List.append_nil, List.append_nil]
    exact out
  have place := shellPlacement_of_fresh fresh
  refine ⟨_, .opened isShell same ?_ ?_ (.inl rfl) (.inl rfl) (by simp) ?_,
    .opened ⟨gathered, shellPlacement_aligned fresh⟩ (holds _ _) isShell⟩
  · rw [place, same]
    simp
  · rw [place]
    rfl
  · rw [← isScript]
    rfl

/-- A line that joins the remembered block goes into the script of that block. -/
theorem Recorded.joins (recorded : Recorded tracker script pieces)
    (shell : tracker.nesting.shell = none) {block : ShellBlock} {placement : Placement}
    (remembered : tracker.openAction = some (.shell block placement))
    (hasContent : token.content ≠ [])
    (isOpen : after =
      { tracker with
        nesting := { tracker.nesting with openKey := none, shell := some (block.reopen.push token) }
        taskAction := none
        reopened := some placement }) :
    ∃ changed, Recorded after (script.map (·.add token)) changed ∧
      Change after pieces [token] changed := by
  obtain ⟨_, out, remembers⟩ := recorded.of_closed shell
  obtain ⟨above, below, opener, lines, rfl, isScript, start, length, notBare, noScript⟩ :=
    remembers block placement remembered
  have isShell : after.nesting.shell = some (block.reopen.push token) := by rw [isOpen]
  have place : after.shellPlacement = placement := by rw [isOpen]; rfl
  have same : after.out = documentLines after.mode above ++
      shellLines after.mode block placement ++ below.flatMap (Piece.texts after.mode) := by
    rw [isOpen]
    simp only [out, documentLines_append, List.flatMap_cons, texts_script, List.append_assoc]
  have again : after.IsRejoined := by
    have task := task_isSome_of_openAction remembered
    rw [isOpen]
    exact ⟨task, rfl, rfl⟩
  have grown := ShellBlock.reduceOption_push lines block.reopen.takenBlanks token
  have joined : script.map (·.add token) = some ⟨opener,
      (lines ++ List.replicate block.reopen.takenBlanks none ++ [some token]).reduceOption⟩ := by
    rw [isScript, Option.map_some, grown]
    rfl
  have written := Recorded.opened isShell same (by rw [place, start, isOpen])
    (by rw [place, length, isOpen]) (.inr again) (.inr (isBare_push _ token)) noScript joined
  rw [place] at written
  exact ⟨_, written, .takes (.inr rfl) hasContent (.inr again) (.inr notBare) isShell⟩

/-- A line that no shell block absorbs is entered or left out with an excuse. -/
theorem Recorded.effect (recorded : Recorded tracker script pieces)
    (shell : tracker.nesting.shell = none) (effect : Effect tracker token after)
    (hasContent : token.content ≠ []) :
    ∃ changed entered, Recorded after (Script.placed script after token) changed ∧
      Change after pieces entered changed ∧
      (entered = [token] ∨
        entered = [] ∧ tracker.mode = .canonical ∧ token.Excused after.ambiguities) := by
  cases effect with
  | wrote supplied line areSupplied written adds =>
      obtain ⟨changed, added, change⟩ := recorded.adds_line shell areSupplied adds written
      rw [Script.placed, adds.shell, shell]
      exact ⟨changed, [token], added, change, .inl rfl⟩
  | dropped canonical excused adds =>
      rw [Script.placed, adds.shell, shell]
      have same : Recorded after script (pieces ++ []) :=
        recorded.adds shell (List.forall_mem_nil _) adds
      rw [List.append_nil] at same
      exact ⟨pieces, [], same, .nothing, .inr ⟨rfl, canonical, excused⟩⟩
  | opened supplied ready block areSupplied adds opens isOpen =>
      have notRejoined : after.reopened = none := by
        rw [isOpen]
        exact adds.reopened.trans (recorded.of_closed shell).1
      have placed : Script.placed script after token = some (.start token) := by
        rw [Script.placed, notRejoined, isOpen]
        rfl
      rw [placed]
      obtain ⟨more, prepared, silent⟩ := recorded.adds_supplied shell areSupplied adds
      obtain ⟨changed, opened, change⟩ :=
        prepared.opens (adds.shell.trans shell) opens hasContent isOpen
      exact ⟨changed, [token], opened, silent change, .inl rfl⟩
  | rejoined ready block placement adds isFragment remembered isOpen =>
      have placed : Script.placed script after token = script.map (·.add token) := by
        rw [Script.placed, isOpen]
        rfl
      rw [placed]
      obtain ⟨more, prepared, silent⟩ := recorded.adds_supplied shell (.inl rfl) adds
      obtain ⟨changed, joined, change⟩ :=
        prepared.joins (adds.shell.trans shell) remembered hasContent isOpen
      exact ⟨changed, [token], joined, silent change, .inl rfl⟩

/-- A blank line is absorbed, or it comes after the open block and adds at most an empty line. -/
theorem Recorded.push_blank (recorded : Recorded tracker script pieces)
    (isBlank : token.role = .blank) :
    ∃ changed, Recorded (tracker.push token) script changed ∧
      Change (tracker.push token) pieces [] changed := by
  cases absorbs : tracker.extendShell? token with
  | some extended =>
      obtain ⟨block, absorbed, shell, ⟨_, rfl⟩ | ⟨notBlank, _⟩, isOpen⟩ :=
        extendShell?_eq_some absorbs
      · rw [push_of_absorbed absorbs]
        exact recorded.absorb_blank shell isOpen
      · exact (notBlank isBlank).elim
  | none =>
      obtain ⟨blanks, areBlank, _, closed⟩ := recorded.flushShell
      have shell := tracker.flushShell_state.1
      rw [push_of_outside absorbs, pushOutsideShell, if_pos isBlank]
      rcases adds_pushBlank tracker.flushShell with adds | adds
      · have same : Recorded (pushBlank tracker.flushShell) script (pieces ++ blanks ++ []) :=
          closed.adds shell (List.forall_mem_nil _) adds
        rw [List.append_nil] at same
        exact ⟨_, same, .after_silent areBlank (.inr rfl) .nothing⟩
      · have added : Recorded (pushBlank tracker.flushShell) script (pieces ++ blanks ++ [.empty]) :=
          closed.adds shell (List.forall_mem_singleton.mpr rfl) adds
        exact ⟨_, added, .after_silent areBlank (.inr rfl) (.silent (.inr rfl) .nothing)⟩

/-- **One line.** The pieces change with the line. A line with content is entered, or it is left out
with an excuse, which happens in the canonical mode only. -/
theorem Recorded.push (recorded : Recorded tracker script pieces) (classified : token.Classified) :
    ∃ changed entered, Recorded (tracker.push token) (Script.after script tracker token) changed ∧
      Change (tracker.push token) pieces entered changed ∧
      (entered = contentLines [token] ∨ entered = [] ∧ tracker.mode = .canonical ∧
        token.Excused (tracker.push token).ambiguities) := by
  by_cases noContent : token.content = []
  · have isBlank := classified.role_eq_blank_iff.mpr noContent
    obtain ⟨changed, written, change⟩ := recorded.push_blank isBlank
    rw [Script.after, if_pos isBlank]
    exact ⟨changed, [], written, change, .inl (by simp [contentLines, noContent])⟩
  · have notBlank := mt classified.role_eq_blank_iff.mp noContent
    have isContent : contentLines [token] = [token] := by simp [contentLines, noContent]
    rw [Script.after, if_neg notBlank, isContent]
    cases absorbs : tracker.extendShell? token with
    | some extended =>
        obtain ⟨block, absorbed, shell, ⟨isBlank, _⟩ | ⟨_, _, rfl⟩, isOpen⟩ :=
          extendShell?_eq_some absorbs
        · exact (notBlank isBlank).elim
        · obtain ⟨changed, written, change⟩ := recorded.absorb shell noContent isOpen
          rw [push_of_absorbed absorbs]
          exact ⟨changed, [token], written, change, .inl rfl⟩
    | none =>
        obtain ⟨blanks, areBlank, _, closed⟩ := recorded.flushShell
        obtain ⟨shell, mode, _⟩ := tracker.flushShell_state
        obtain ⟨changed, entered, written, change, isEntered⟩ :=
          closed.effect shell (effect_pushOutsideShell _ classified noContent) noContent
        rw [push_of_outside absorbs, ← mode]
        exact ⟨changed, entered, written, .after_silent areBlank (.inr rfl) change, isEntered⟩

/-- What the tracker has written is an account of the given lines of the source. -/
def Ledger (rejoins : LineToken → Prop) (tracker : Tracker) (script : Option Script)
    (kept : List LineToken) : Prop :=
  ∃ pieces, Recorded tracker script pieces ∧ Account rejoins pieces kept

theorem Ledger.flushShell {rejoins : LineToken → Prop} {kept : List LineToken}
    (ledger : Ledger rejoins tracker script kept) :
    Ledger rejoins tracker.flushShell script kept ∧ tracker.flushShell.reopened = none := by
  obtain ⟨pieces, recorded, account⟩ := ledger
  obtain ⟨blanks, areBlank, fresh, written⟩ := recorded.flushShell
  refine ⟨⟨_, written, ?_⟩, fresh⟩
  rcases areBlank with rfl | rfl
  · rwa [List.append_nil]
  · exact account.append_silent (.inr rfl)

end

end Tracker

namespace Rebuild

/-- The line joins a shell block of its task that had been written before, or is absorbed by a block
that an earlier line has joined so. -/
def Rejoins (mode : RebuildMode) (kind : FileKind) (text : Text) (token : LineToken) : Prop :=
  ∃ done later, tokens mode kind text = done ++ token :: later ∧
    (trackerAfter mode kind (done ++ [token])).IsRejoined

theorem trackerAfter_mode (mode : RebuildMode) (kind : FileKind) (text : Text) :
    ∀ done later, tokens mode kind text = done ++ later →
      (trackerAfter mode kind done).mode = mode := by
  refine invariant mode kind text rfl ?_
  intro done token later split ih
  have classified : token.Classified :=
    classified_of_mem (split ▸ List.mem_append_right _ List.mem_cons_self)
  rw [trackerAfter_concat, ((trackerAfter mode kind done).push_mode_reports classified).1, ih]

/-- In a run the changed pieces are an account of the earlier lines and the one that is entered. -/
theorem account_push {mode : RebuildMode} {kind : FileKind} {text : Text}
    {done later kept entered : List LineToken} {token : LineToken} {pieces changed : List Piece}
    (split : tokens mode kind text = done ++ token :: later)
    (change : Tracker.Change ((trackerAfter mode kind done).push token) pieces entered changed)
    (isToken : ∀ other ∈ entered, other = token)
    (account : Account (Rejoins mode kind text) pieces kept)
    (sublist : kept.Sublist (contentLines done)) :
    Account (Rejoins mode kind text) changed (kept ++ entered) := by
  refine change.account account ?_ ?_
  · intro other member earlier isKept
    rw [isToken other member]
    exact number_lt_of_split mode kind text split earlier
      (List.mem_of_mem_filter (sublist.subset isKept))
  · intro again other member
    rw [isToken other member]
    exact ⟨done, _, split, by rwa [trackerAfter_concat]⟩

/-- **The ledger of a run.** After any part of the lines of a text the tracker has written an account
of those that have content. In the incremental mode none of them is missing, in the canonical mode
none without an excuse. -/
theorem ledger_run (mode : RebuildMode) (kind : FileKind) (text : Text) :
    ∀ done later, tokens mode kind text = done ++ later →
      ∃ kept, Tracker.Ledger (Rejoins mode kind text) (trackerAfter mode kind done)
          (scriptAfter mode kind done) kept ∧
        kept.Sublist (contentLines done) ∧
        (mode = .incremental → kept = contentLines done) ∧
        ∀ token ∈ contentLines done,
          token ∈ kept ∨ token.Excused (trackerAfter mode kind done).ambiguities := by
  refine invariant mode kind text ?_ ?_
  · exact ⟨[], ⟨[], Tracker.recorded_start mode kind, .nil⟩, .slnil, fun _ => rfl, nofun⟩
  · intro done token later split ih
    obtain ⟨kept, ⟨pieces, recorded, account⟩, sublist, complete, excuses⟩ := ih
    have classified : token.Classified :=
      classified_of_mem (split ▸ List.mem_append_right _ List.mem_cons_self)
    have reports := ((trackerAfter mode kind done).push_mode_reports classified).2
    have isMode := trackerAfter_mode mode kind text done (token :: later) split
    obtain ⟨changed, entered, written, change, isEntered⟩ := recorded.push classified
    have isPart : entered.Sublist (contentLines [token]) := by
      rcases isEntered with rfl | ⟨rfl, _⟩
      · exact .refl _
      · exact List.nil_sublist _
    have isToken : ∀ other ∈ entered, other = token := fun other member =>
      List.mem_singleton.mp (List.mem_of_mem_filter (isPart.subset member))
    rw [trackerAfter_concat, scriptAfter_concat, contentLines_append]
    refine ⟨kept ++ entered,
      ⟨changed, written, account_push split change isToken account sublist⟩,
      sublist.append isPart, ?_, ?_⟩
    · intro isIncremental
      rcases isEntered with rfl | ⟨_, canonical, _⟩
      · rw [complete isIncremental]
      · rw [isMode, isIncremental] at canonical
        cases canonical
    · intro earlier member
      rcases List.mem_append.mp member with before | last
      · exact (excuses earlier before).imp (List.mem_append_left _) (·.mono reports)
      · rcases isEntered with rfl | ⟨_, _, excused⟩
        · exact .inl (List.mem_append_right _ last)
        · rw [List.mem_singleton.mp (List.mem_of_mem_filter last)]
          exact .inr excused

end Rebuild

end PlaybookRepair
