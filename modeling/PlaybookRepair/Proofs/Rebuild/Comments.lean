import PlaybookRepair.Proofs.Outline.Document
import PlaybookRepair.Proofs.Rebuild.Containment

/-!
# Comments and scripts

The incremental mode copies a comment with its margin, while the lines around it are moved to the
columns of their roles. A comment behind a shell block is still no part of the script as long as it
stands left of the script. A block takes the comments from a certain source column on
(`ShellBlock.commentColumn`), so the comments behind it stand left of that column
(`Tracker.KeepsOut`); they stand left of the written script if the block has not been moved too far
to the left (`comment_apart_from_script`).
-/

namespace PlaybookRepair

namespace ShellBlock

/-- The source column from which on comments belong to the block, unless it is a bare key. -/
def commentColumn (block : ShellBlock) : Nat :=
  if block.explicit then block.startIndent + 1 else block.startIndent

theorem accepts_comment_iff {block : ShellBlock} {token : LineToken}
    (notBare : block.isBare = false) (isComment : token.role = .comment) :
    block.accepts token ↔ block.commentColumn ≤ token.indent := by
  unfold accepts commentColumn
  split
  · rw [decide_eq_true_iff]
    exact Nat.lt_iff_add_one_le
  · simp [notBare, isComment, Role.isStructural]

end ShellBlock

namespace Tracker

/-! ## Lines behind a block -/

/-- The shell block above the next piece, if nothing but empty lines stands between. -/
def blockAbove (above : Option ShellBlock) : Piece → Option ShellBlock
  | .script _ _ block _ _ => some block
  | .empty => above
  | .line .. | .supplied => none

/-- The last shell block among the pieces, if nothing but empty lines stands behind it. -/
def lastBlock (pieces : List Piece) : Option ShellBlock := pieces.foldl blockAbove none

/-- Each of the given lines that comes directly behind a shell block, empty lines apart, stands left
of the column from which on comments belong to the block. -/
def KeepsOut (aside : LineToken → Prop) : Option ShellBlock → List Piece → Prop
  | _, [] => True
  | above, piece :: rest =>
    (∀ token text block, piece = .line token text → aside token → above = some block →
      block.isBare = false → Line.indentWidth text < block.commentColumn) ∧
    KeepsOut aside (blockAbove above piece) rest

section

variable {aside : LineToken → Prop} {pieces below : List Piece}

theorem keepsOut_append {above : Option ShellBlock} {first second : List Piece} :
    KeepsOut aside above (first ++ second) ↔
      KeepsOut aside above first ∧ KeepsOut aside (first.foldl blockAbove above) second := by
  induction first generalizing above with
  | nil => simp [KeepsOut]
  | cons piece rest ih => simp only [List.cons_append, KeepsOut, List.foldl_cons, ih, and_assoc]

theorem keepsOut_nil (above : Option ShellBlock) : KeepsOut aside above [] := by
  rw [KeepsOut]
  trivial

theorem keepsOut_concat {above : Option ShellBlock} {piece : Piece} :
    KeepsOut aside above (pieces ++ [piece]) ↔ KeepsOut aside above pieces ∧
      ∀ token text block, piece = .line token text → aside token →
        pieces.foldl blockAbove above = some block → block.isBare = false →
        Line.indentWidth text < block.commentColumn := by
  rw [keepsOut_append]
  simp only [KeepsOut, and_true]

/-- A block may give way to one that takes the same comments. -/
theorem KeepsOut.replace {old new : ShellBlock} (keepsOut : KeepsOut aside (some old) below)
    (bare : new.isBare = false → old.isBare = false)
    (same : new.commentColumn = old.commentColumn) : KeepsOut aside (some new) below := by
  induction below with
  | nil => exact keepsOut_nil _
  | cons piece rest ih =>
      obtain ⟨first, later⟩ := keepsOut
      refine ⟨?_, ?_⟩
      · rintro token text block isLine isAside ⟨⟩ notBare
        rw [same]
        exact first token text old isLine isAside rfl (bare notBare)
      · cases piece with
        | empty => exact ih later
        | line | supplied | script => exact later

/-- Of several chosen lines behind a block, with empty lines between them, the first one stands left
of the column from which on comments belong to the block. -/
theorem KeepsOut.exists_first {block : ShellBlock} {between : List Piece} {token : LineToken}
    {text : Text} (keepsOut : KeepsOut aside (some block) (between ++ .line token text :: below))
    (notBare : block.isBare = false) (isAside : aside token)
    (areAside : ∀ piece ∈ between, piece = .empty ∨
      ∃ other line, piece = .line other line ∧ aside other) :
    ∃ blanks other line rest, between ++ [.line token text] = blanks ++ .line other line :: rest ∧
      (∀ piece ∈ blanks, piece = .empty) ∧ aside other ∧
      Line.indentWidth line < block.commentColumn := by
  induction between with
  | nil =>
      exact ⟨[], token, text, [], rfl, List.forall_mem_nil _, isAside,
        keepsOut.1 token text block rfl isAside rfl notBare⟩
  | cons piece rest ih =>
      obtain ⟨isFirst, areLater⟩ := List.forall_mem_cons.mp areAside
      rcases isFirst with rfl | ⟨other, line, rfl, isOther⟩
      · obtain ⟨blanks, other, line, behind, same, areEmpty, found⟩ := ih keepsOut.2 areLater
        exact ⟨.empty :: blanks, other, line, behind, congrArg (List.cons Piece.empty) same,
          List.forall_mem_cons.mpr ⟨rfl, areEmpty⟩, found⟩
      · exact ⟨[], other, line, rest ++ [.line token text], rfl, List.forall_mem_nil _, isOther,
          keepsOut.1 other line block rfl isOther rfl notBare⟩

/-- Behind lines that are no shell blocks stands the block that has stood before them, or none. -/
theorem foldl_blockAbove (above : Option ShellBlock)
    (noScript : ∀ piece ∈ pieces, piece.isScript = false) :
    pieces.foldl blockAbove above = above ∨ pieces.foldl blockAbove above = none := by
  induction pieces generalizing above with
  | nil => exact .inl rfl
  | cons piece rest ih =>
      obtain ⟨first, later⟩ := List.forall_mem_cons.mp noScript
      rw [List.foldl_cons]
      cases piece with
      | empty => exact ih above later
      | line | supplied => exact .inr ((ih none later).elim id id)
      | script => cases first

theorem lastBlock_append_silent {piece : Piece} {block : ShellBlock} (isSilent : piece.IsSilent)
    (last : lastBlock (pieces ++ [piece]) = some block) : lastBlock pieces = some block := by
  rw [lastBlock, List.foldl_append] at last
  rcases isSilent with rfl | rfl
  · cases last
  · exact last

end

/-! ## One line -/

/-- The lines of the source that the shell blocks among the pieces hold. -/
def heldLines (pieces : List Piece) : List LineToken :=
  pieces.flatMap fun piece => if piece.isScript then piece.sources else []

theorem mem_heldLines {pieces : List Piece} {token : LineToken} :
    token ∈ heldLines pieces ↔ ∃ piece ∈ pieces, piece.isScript ∧ token ∈ piece.sources := by
  simp [heldLines]

theorem heldLines_append (first second : List Piece) :
    heldLines (first ++ second) = heldLines first ++ heldLines second :=
  List.flatMap_append

theorem heldLines_script (opener : LineToken) (lines : List (Option LineToken)) (block : ShellBlock)
    (column : Nat) (dashed : Bool) (below : List Piece) :
    heldLines (.script opener lines block column dashed :: below) =
      (Piece.script opener lines block column dashed).sources ++ heldLines below :=
  rfl

section

variable {after : Tracker} {pieces changed : List Piece} {entered : List LineToken}
  {aside : LineToken → Prop}

/-- A line that is entered while no block is open goes to the end. -/
theorem Change.exists_line (change : Change after pieces entered changed)
    (closed : after.nesting.shell = none) {token : LineToken} (isEntered : entered = [token]) :
    ∃ init text, changed = init ++ [.line token text] := by
  induction change with
  | nothing => cases isEntered
  | silent _ _ ih => exact ih isEntered
  | line => exact ⟨_, _, by rw [List.singleton_inj.mp isEntered]⟩
  | opened _ _ isOpen | waits isOpen | takes _ _ _ _ isOpen =>
      rw [closed] at isOpen
      cases isOpen

/-- Lines that have been written stay. -/
theorem Change.mem_line (change : Change after pieces entered changed) {token : LineToken}
    {text : Text} (member : .line token text ∈ pieces) : .line token text ∈ changed := by
  induction change with
  | nothing => exact member
  | silent _ _ ih => exact ih (List.mem_append_left _ member)
  | line | opened => exact List.mem_append_left _ member
  | waits | takes => simpa using member

/-- If no block is open after a line that is entered, no block is the last piece. -/
theorem Change.lastBlock_eq_none (change : Change after pieces entered changed)
    (closed : after.nesting.shell = none) (same : entered = [] → lastBlock pieces = none) :
    lastBlock changed = none := by
  induction change with
  | nothing => exact same rfl
  | @silent pieces _ _ piece isSilent _ ih =>
      refine ih fun nothing => Option.eq_none_iff_forall_ne_some.mpr fun block last => ?_
      have above := lastBlock_append_silent isSilent last
      rw [same nothing] at above
      cases above
  | line =>
      rw [lastBlock, List.foldl_append]
      rfl
  | opened _ _ isOpen | waits isOpen | takes _ _ _ _ isOpen =>
      rw [closed] at isOpen
      cases isOpen

/-- The shell blocks hold the lines that they have held, and the line that is entered if a block is
open after it. -/
theorem Change.mem_heldLines (change : Change after pieces entered changed) (token : LineToken) :
    token ∈ heldLines changed ↔
      token ∈ heldLines pieces ∨ token ∈ entered ∧ after.nesting.shell.isSome := by
  induction change with
  | nothing => simp
  | @silent pieces _ _ piece isSilent _ ih =>
      have same : heldLines [piece] = [] := by rcases isSilent with rfl | rfl <;> rfl
      rw [ih, heldLines_append, same, List.append_nil]
  | line _ closed => simp [closed, heldLines, Piece.isScript]
  | opened _ holds isOpen =>
      simp only [heldLines_append, heldLines_script, holds, isOpen]
      simp [heldLines]
  | waits =>
      rw [heldLines_append, heldLines_append]
      simp [heldLines_script, Piece.sources]
  | takes _ _ _ _ isOpen =>
      simp only [heldLines_append, heldLines_script, Piece.sources, ShellBlock.reduceOption_push,
        isOpen, List.mem_append, List.mem_singleton, Option.isSome_some, and_true, or_assoc,
        or_comm, or_left_comm]

/-- Chosen lines stay left of the blocks above them if the one that is entered does. -/
theorem Change.keepsOut (change : Change after pieces entered changed)
    (keepsOut : KeepsOut aside none pieces)
    (placed : ∀ token init text block, entered = [token] → aside token →
      changed = init ++ [.line token text] → lastBlock pieces = some block →
      block.isBare = false → Line.indentWidth text < block.commentColumn) :
    KeepsOut aside none changed := by
  induction change with
  | nothing => exact keepsOut
  | silent isSilent _ ih =>
      refine ih (keepsOut_concat.mpr ⟨keepsOut, ?_⟩) ?_
      · rintro token text _ rfl
        rcases isSilent with isLine | isLine <;> cases isLine
      · intro token init text block isEntered isAside same last
        exact placed token init text block isEntered isAside same
          (lastBlock_append_silent isSilent last)
  | line =>
      refine keepsOut_concat.mpr ⟨keepsOut, ?_⟩
      rintro token text block ⟨⟩ isAside last notBare
      exact placed _ _ _ block rfl isAside rfl last notBare
  | opened => exact keepsOut_concat.mpr ⟨keepsOut, nofun⟩
  | waits =>
      obtain ⟨upper, _, lower⟩ := keepsOut_append.mp keepsOut
      exact keepsOut_append.mpr ⟨upper, nofun, lower.replace id rfl⟩
  | takes isReady _ _ notBare =>
      obtain ⟨upper, _, lower⟩ := keepsOut_append.mp keepsOut
      refine keepsOut_append.mpr ⟨upper, nofun, ?_⟩
      rcases notBare with rfl | notBare
      · exact keepsOut_nil _
      · refine lower.replace (fun _ => notBare) ?_
        rcases isReady with rfl | rfl <;> rfl

/-- A block that stands last among the pieces of a run is the open one. -/
theorem Recorded.shell_of_lastBlock {tracker : Tracker} {script : Option Script}
    (recorded : Recorded tracker script pieces)
    (closed : tracker.nesting.shell = none → lastBlock pieces = none) {block : ShellBlock}
    (last : lastBlock pieces = some block) : tracker.nesting.shell = some block := by
  cases recorded with
  | closed shell =>
      rw [closed shell] at last
      cases last
  | @opened above below old current opener lines shell _ _ _ _ _ noScript =>
      rw [lastBlock, List.foldl_append, List.foldl_cons] at last
      rcases foldl_blockAbove (some current) noScript with same | nothing
      · rw [shell]
        exact same.symm.trans last
      · exact nomatch nothing.symm.trans last

end

/-- Behind a line after which no block is open, no block is the last piece either. -/
theorem lastBlock_push {tracker : Tracker} {token : LineToken} {pieces changed : List Piece}
    (classified : token.Classified)
    (change : Change (tracker.push token) pieces (Rebuild.contentLines [token]) changed)
    (before : tracker.nesting.shell = none → lastBlock pieces = none)
    (closed : (tracker.push token).nesting.shell = none) : lastBlock changed = none := by
  refine change.lastBlock_eq_none closed fun nothing => before ?_
  have isBlank : token.role = .blank := by
    rw [classified.role_eq_blank_iff]
    by_contra hasContent
    simp [Rebuild.contentLines, hasContent] at nothing
  -- An open block would have absorbed a blank line.
  cases shell : tracker.nesting.shell with
  | none => rfl
  | some block =>
      rw [push_of_absorbed (extendShell?_of_blank shell isBlank)] at closed
      cases closed

/-- A comment that is neither absorbed nor part of an open value is copied after the open block. -/
theorem push_comment {tracker : Tracker} {token : LineToken} (isMode : tracker.mode = .incremental)
    (isComment : token.role = .comment) (outside : tracker.extendShell? token = none)
    (apart : tracker.flushShell.takeNested? token = none) :
    tracker.push token = tracker.flushShell.emitLine (Text.trimEnd token.line.raw) := by
  have mode : tracker.flushShell.mode = .incremental := tracker.flushShell_state.2.1.trans isMode
  have stays : tracker.flushShell.leave token = tracker.flushShell := by
    rw [leave, leaveKey, if_pos isComment, closeByDedent]
    simp [isComment]
  rw [push_of_outside outside, pushOutsideShell_of_apart (by simp [isComment]) apart, stays, place,
    isComment]
  exact if_pos mode

end Tracker

/-- A part of a text from its start has no wider margin. -/
theorem Line.indentWidth_le {first text : Text} (isPrefix : first <+: text) :
    indentWidth first ≤ indentWidth text := by
  obtain ⟨rest, rfl⟩ := isPrefix
  induction first with
  | nil => exact Nat.zero_le _
  | cons c first ih =>
      rw [List.cons_append]
      unfold indentWidth
      split <;> simp_all

/-- Spaces at the start of a text belong to its margin. -/
theorem Line.le_indentWidth_of_spaces {column : Nat} {text : Text}
    (spaces : List.replicate column ' ' <+: text) : column ≤ indentWidth text := by
  refine Nat.le_trans (Nat.le_of_eq ?_) (indentWidth_le spaces)
  clear spaces
  induction column with
  | zero => rfl
  | succ column ih => rw [List.replicate_succ, indentWidth, ← ih, Nat.add_comm]

namespace Rebuild

open Tracker

/-! ## A run -/

section

variable {kind : FileKind} {text : Text} {token : LineToken} {done later : List LineToken}

/-- The line is a comment that is absorbed by no shell block and belongs to no open value. -/
def SetAside (kind : FileKind) (text : Text) (token : LineToken) : Prop :=
  token.role = .comment ∧ ∃ done later, tokens .incremental kind text = done ++ token :: later ∧
    (trackerAfter .incremental kind done).extendShell? token = none ∧
    (trackerAfter .incremental kind done).flushShell.takeNested? token = none

/-- A shell block is open after the line, which has opened it or belongs to it. -/
def InShell (kind : FileKind) (text : Text) (token : LineToken) : Prop :=
  ∃ done later, tokens .incremental kind text = done ++ token :: later ∧
    (trackerAfter .incremental kind (done ++ [token])).nesting.shell.isSome

/-- The pieces of a run in the incremental mode: they account for the lines with content, the shell
blocks among them hold the lines at which blocks were open, and comments that are set aside are
copied and stay left of the column from which on the block above them takes comments. -/
structure Commented (kind : FileKind) (text : Text) (done : List LineToken) (pieces : List Piece) :
    Prop where
  account : Account (Rejoins .incremental kind text) pieces (contentLines done)
  held : ∀ token, token ∈ heldLines pieces ↔ token ∈ contentLines done ∧ InShell kind text token
  copied : ∀ token ∈ done, SetAside kind text token →
    .line token (Text.trimEnd token.line.raw) ∈ pieces
  keepsOut : KeepsOut (SetAside kind text) none pieces

theorem inShell_iff (split : tokens .incremental kind text = done ++ token :: later) :
    InShell kind text token ↔
      (trackerAfter .incremental kind (done ++ [token])).nesting.shell.isSome := by
  constructor
  · rintro ⟨others, rest, isSplit, isOpen⟩
    rwa [← split_unique .incremental kind text split isSplit]
  · exact fun isOpen => ⟨done, later, split, isOpen⟩

namespace SetAside

variable (aside : SetAside kind text token)
include aside

theorem contentLines_eq (classified : token.Classified) : contentLines [token] = [token] := by
  have notBlank : token.role ≠ .blank := by simp [aside.1]
  simp [contentLines, mt classified.role_eq_blank_iff.mpr notBlank]

variable (split : tokens .incremental kind text = done ++ token :: later)
include split

/-- A comment that is set aside is copied after the open block. -/
theorem push_eq : (trackerAfter .incremental kind done).push token =
    (trackerAfter .incremental kind done).flushShell.emitLine (Text.trimEnd token.line.raw) := by
  obtain ⟨isComment, others, rest, isSplit, outside, apart⟩ := aside
  obtain rfl := split_unique .incremental kind text split isSplit
  exact push_comment (trackerAfter_mode .incremental kind text _ _ isSplit) isComment outside apart

/-- The open block does not take a comment that is set aside. -/
theorem indent_lt {block : ShellBlock}
    (isOpen : (trackerAfter .incremental kind done).nesting.shell = some block)
    (notBare : block.isBare = false) : token.indent < block.commentColumn := by
  obtain ⟨isComment, others, rest, isSplit, outside, _⟩ := aside
  obtain rfl := split_unique .incremental kind text split isSplit
  refine Nat.lt_of_not_le fun reached => ?_
  have absorbed := extendShell?_of_accepts isOpen (by simp [isComment])
    ((ShellBlock.accepts_comment_iff notBare isComment).mpr reached)
  exact nomatch outside.symm.trans absorbed

/-- A comment that is set aside goes to the end as it is. -/
theorem exists_line {script : Option Script} {pieces changed : List Piece}
    (written : Recorded ((trackerAfter .incremental kind done).push token) script changed)
    (change : Change ((trackerAfter .incremental kind done).push token) pieces [token] changed) :
    ∃ init, changed = init ++ [.line token (Text.trimEnd token.line.raw)] := by
  have copied := aside.push_eq split
  have closed : ((trackerAfter .incremental kind done).push token).nesting.shell = none := by
    rw [copied]
    exact (flushShell_state _).1
  obtain ⟨init, line, rfl⟩ := change.exists_line closed rfl
  have out := (written.of_closed closed).2.1
  rw [documentLines_append, copied] at out
  obtain ⟨_, same⟩ := List.append_inj' out rfl
  exact ⟨init, by rw [← List.singleton_inj.mp same]⟩

end SetAside

/-- One line keeps the pieces of a run. -/
theorem Commented.push {pieces : List Piece} {script : Option Script}
    (commented : Commented kind text done pieces)
    (recorded : Recorded (trackerAfter .incremental kind done) script pieces)
    (closed : (trackerAfter .incremental kind done).nesting.shell = none → lastBlock pieces = none)
    (split : tokens .incremental kind text = done ++ token :: later) :
    ∃ changed, Recorded (trackerAfter .incremental kind (done ++ [token]))
        (Script.after script (trackerAfter .incremental kind done) token) changed ∧
      ((trackerAfter .incremental kind (done ++ [token])).nesting.shell = none →
        lastBlock changed = none) ∧
      Commented kind text (done ++ [token]) changed := by
  have classified : token.Classified :=
    classified_of_mem (split ▸ List.mem_append_right _ List.mem_cons_self)
  have isMode := trackerAfter_mode .incremental kind text done (token :: later) split
  obtain ⟨changed, entered, written, change, isEntered⟩ := recorded.push classified
  rw [isMode] at isEntered
  obtain rfl := isEntered.resolve_right fun left => nomatch left.2.1
  have isToken : ∀ other ∈ contentLines [token], other = token := fun other member =>
    List.mem_singleton.mp (List.mem_of_mem_filter member)
  have lines := contentLines_append done [token]
  rw [trackerAfter_concat]
  refine ⟨changed, written, lastBlock_push classified change closed, ?_, ?_, ?_, ?_⟩
  · rw [lines]
    exact account_push split change isToken commented.account (.refl _)
  · intro other
    rw [change.mem_heldLines, commented.held, lines, List.mem_append, or_and_right]
    refine or_congr_right (and_congr_right fun isContent => ?_)
    obtain rfl := isToken other isContent
    rw [inShell_iff split, trackerAfter_concat]
  · intro other member aside
    rcases List.mem_append.mp member with before | last
    · exact change.mem_line (commented.copied other before aside)
    · obtain rfl := List.mem_singleton.mp last
      rw [aside.contentLines_eq classified] at change
      obtain ⟨init, rfl⟩ := aside.exists_line split written change
      exact List.mem_append_right _ (List.mem_singleton_self _)
  · refine change.keepsOut commented.keepsOut ?_
    intro other init line block isEntered aside same last notBare
    obtain rfl : other = token := isToken other (isEntered ▸ List.mem_singleton_self other)
    rw [isEntered] at change
    obtain ⟨_, isLast⟩ := aside.exists_line split written change
    obtain ⟨_, copied⟩ := List.append_inj' (same.symm.trans isLast) rfl
    obtain rfl : line = Text.trimEnd other.line.raw := by simpa using copied
    have isOpen := recorded.shell_of_lastBlock closed last
    calc Line.indentWidth (Text.trimEnd other.line.raw)
        ≤ other.indent := Line.indentWidth_le (Text.trimEnd_isPrefixOf _)
      _ < block.commentColumn := aside.indent_lt split isOpen notBare

variable (kind text)

/-- The pieces of a run. A block that is the last of them is the open one. -/
theorem commented_run : ∀ done later, tokens .incremental kind text = done ++ later →
    ∃ pieces, Recorded (trackerAfter .incremental kind done) (scriptAfter .incremental kind done)
        pieces ∧
      ((trackerAfter .incremental kind done).nesting.shell = none → lastBlock pieces = none) ∧
      Commented kind text done pieces := by
  refine invariant .incremental kind text ?_ ?_
  · refine ⟨[], recorded_start .incremental kind, fun _ => rfl, .nil, fun token => ?_,
      List.forall_mem_nil _, keepsOut_nil none⟩
    simp [heldLines, contentLines]
  · rintro done token later split ⟨pieces, recorded, closed, commented⟩
    rw [scriptAfter_concat]
    exact commented.push recorded closed split

/-- The pieces of a finished document. -/
theorem exists_commented : ∃ top pieces,
    Text.pieces '\n' (rebuild .incremental kind text).text =
      top ++ dropTrailingEmpty (pieces.flatMap (Piece.texts .incremental)) ++ [[]] ∧
    (top = [] ∨ top = ["---".toList]) ∧
    Commented kind text (tokens .incremental kind text) pieces := by
  obtain ⟨pieces, recorded, _, commented⟩ :=
    commented_run kind text (tokens .incremental kind text) [] (List.append_nil _).symm
  have isMode := trackerAfter_mode .incremental kind text (tokens .incremental kind text) []
    (List.append_nil _).symm
  rw [pieces_rebuild]
  generalize trackerAfter .incremental kind (tokens .incremental kind text) = tracker at *
  obtain ⟨blanks, areBlank, _, written⟩ := recorded.flushShell
  obtain ⟨closed, sameMode, _⟩ := tracker.flushShell_state
  have lines : dropTrailingEmpty tracker.flushShell.out =
      dropTrailingEmpty ((pieces ++ blanks).flatMap (Piece.texts .incremental)) := by
    rw [(written.of_closed closed).2.1, sameMode, isMode]
    rfl
  have finished : Commented kind text (tokens .incremental kind text) (pieces ++ blanks) := by
    rcases areBlank with rfl | rfl
    · rwa [List.append_nil]
    · refine ⟨commented.account.append_silent (.inr rfl), fun token => ?_, fun token member aside =>
        List.mem_append_left _ (commented.copied token member aside),
        keepsOut_concat.mpr ⟨commented.keepsOut, nofun⟩⟩
      rw [← commented.held, heldLines_append]
      simp [heldLines, Piece.isScript]
  by_cases marked : startsWithMarker (dropTrailingEmpty tracker.flushShell.out)
  · refine ⟨[], pieces ++ blanks, ?_, .inl rfl, finished⟩
    rw [← lines]
    simp [finishedLines, marked]
  · refine ⟨["---".toList], pieces ++ blanks, ?_, .inr rfl, finished⟩
    rw [← lines]
    simp [finishedLines, marked, isMode]

end

/-- The lines below the first one of a script stand two columns right of its key at least. -/
theorem le_indentWidth_of_mem_script {opener : LineToken} {lines : List (Option LineToken)}
    {block : ShellBlock} {column : Nat} {dashed : Bool} (mode : RebuildMode)
    (sound : (Piece.script opener lines block column dashed).Sound) {body : Text}
    (member : body ∈ ((Piece.script opener lines block column dashed).texts mode).tail)
    (notEmpty : body ≠ []) : column + indentStep ≤ Line.indentWidth body := by
  obtain ⟨gathered, aligned⟩ := sound
  have written : block.IsWritten lines.reduceOption column
      (shellLines mode block { start := 0, length := 0, depth := column, dashed }) :=
    ShellBlock.isWritten_shellLines gathered mode aligned
  obtain ⟨margin, marker, seed, rest, span, _, _, _, areDeep, _⟩ := written
  rw [Piece.texts, span] at member
  exact Line.le_indentWidth_of_spaces ((areDeep body member).resolve_left notEmpty)

/-- **Comments behind scripts.** The lines of a document that is rebuilt in the incremental mode are
those of pieces that account for the lines of the source with content. The shell blocks among the
pieces hold the lines at which a block is open, and each comment that is set aside is copied. Where
such comments come behind a shell block with a body, empty lines apart, the first of them stands left
of every line of the body, so none of them is part of the script. This holds for blocks that are not
moved too far to the left: the body must not be written left of the source column from which on the
block takes comments. -/
theorem comment_apart_from_script (kind : FileKind) (text : Text) :
    let source := tokens .incremental kind text
    ∃ top pieces,
      Text.pieces '\n' (rebuild .incremental kind text).text =
        top ++ dropTrailingEmpty (pieces.flatMap (Piece.texts .incremental)) ++ [[]] ∧
      (top = [] ∨ top = ["---".toList]) ∧
      Account (Rejoins .incremental kind text) pieces (contentLines source) ∧
      (∀ token ∈ contentLines source, InShell kind text token ↔
        ∃ piece ∈ pieces, piece.isScript ∧ token ∈ piece.sources) ∧
      (∀ token, SetAside kind text token →
        .line token (Text.trimEnd token.line.raw) ∈ pieces) ∧
      ∀ above opener lines block column dashed between token comment below,
        pieces = above ++ .script opener lines block column dashed ::
          (between ++ .line token comment :: below) →
        block.body ≠ [] → SetAside kind text token →
        (∀ piece ∈ between, piece = .empty ∨
          ∃ other line, piece = .line other line ∧ SetAside kind text other) →
        block.commentColumn ≤ column + indentStep →
        ∃ blanks first line rest,
          between ++ [.line token comment] = blanks ++ .line first line :: rest ∧
          (∀ piece ∈ blanks, piece = .empty) ∧
          ∀ body ∈ ((Piece.script opener lines block column dashed).texts .incremental).tail,
            body ≠ [] → Line.indentWidth line < Line.indentWidth body := by
  intro source
  obtain ⟨top, pieces, document, isTop, commented⟩ := exists_commented kind text
  refine ⟨top, pieces, document, isTop, commented.account, ?_, ?_, ?_⟩
  · intro token isContent
    rw [← mem_heldLines, commented.held]
    exact (and_iff_right isContent).symm
  · intro token aside
    obtain ⟨_, done, later, split, _⟩ := id aside
    exact commented.copied token (split ▸ List.mem_append_right _ List.mem_cons_self) aside
  · rintro above opener lines block column dashed between token comment below rfl hasBody aside
      areAside near
    have notBare : block.isBare = false := by simp [ShellBlock.isBare, hasBody]
    obtain ⟨_, _, behind⟩ := keepsOut_append.mp commented.keepsOut
    obtain ⟨blanks, first, line, rest, same, areEmpty, _, left⟩ :=
      behind.exists_first notBare aside areAside
    refine ⟨blanks, first, line, rest, same, areEmpty, fun body member notEmpty => ?_⟩
    calc Line.indentWidth line
        < block.commentColumn := left
      _ ≤ column + indentStep := near
      _ ≤ Line.indentWidth body :=
        le_indentWidth_of_mem_script .incremental commented.account.sound_between member notEmpty

/-- A comment at the column of the key of the block above it. -/
theorem comment_apart_from_script_key :
    let text := "shell: |\n  ls\n# x\n".toList
    let source := tokens .incremental .taskList text
    let line := LineToken.classify ⟨2, "  ls".toList⟩ {}
    let comment := LineToken.classify ⟨3, "# x".toList⟩ {}
    InShell .taskList text line ∧ SetAside .taskList text comment ∧
    ∃ pieces, Account (Rejoins .incremental .taskList text) pieces (contentLines source) ∧
      (∃ piece ∈ pieces, piece.isScript ∧ line ∈ piece.sources) ∧
      Piece.line comment "# x".toList ∈ pieces := by
  intro text source line comment
  have run : source = source.take 1 ++ line :: [comment] ∧ line ∈ contentLines source ∧
      (trackerAfter .incremental .taskList (source.take 1 ++ [line])).nesting.shell.isSome ∧
      (trackerAfter .incremental .taskList (source.take 1 ++ [line])).extendShell? comment = none ∧
      (trackerAfter .incremental .taskList
        (source.take 1 ++ [line])).flushShell.takeNested? comment = none := by
    decide +kernel
  obtain ⟨place, isContent, isOpen, outside, apart⟩ := run
  have inShell : InShell .taskList text line := ⟨_, _, place, isOpen⟩
  have aside : SetAside .taskList text comment :=
    ⟨by decide, source.take 1 ++ [line], [], place.trans (by simp), outside, apart⟩
  obtain ⟨_, pieces, _, _, account, held, copied, _⟩ := comment_apart_from_script .taskList text
  exact ⟨inShell, aside, pieces, account, (held line isContent).mp inShell, copied comment aside⟩

/-- A block that is moved to the left may leave a comment at the column of its script, which the
comment then belongs to. -/
theorem comment_falls_into_script :
    let text := ("- hosts: all\n  tasks:\n    - name: a\n      shell: |\n        echo hi\n" ++
      "      # check\n      register: out\n").toList
    let comment := LineToken.classify ⟨6, "      # check".toList⟩ {}
    SetAside .playbook text comment ∧
    Text.pieces '\n' (rebuild .incremental .playbook text).text =
      ["---", "- hosts: all", "  tasks:", "  - name: a", "    shell: |", "      echo hi",
        "      # check", "    register: out", ""].map String.toList ∧
    ¬ Line.indentWidth "      # check".toList < Line.indentWidth "      echo hi".toList := by
  intro text comment
  have run : let source := tokens .incremental .playbook text
      let tracker := trackerAfter .incremental .playbook (source.take 5)
      source = source.take 5 ++ comment :: source.drop 6 ∧ tracker.extendShell? comment = none ∧
        tracker.flushShell.takeNested? comment = none ∧
        Text.pieces '\n' (rebuild .incremental .playbook text).text =
          ["---", "- hosts: all", "  tasks:", "  - name: a", "    shell: |", "      echo hi",
            "      # check", "    register: out", ""].map String.toList := by
    decide +kernel
  obtain ⟨place, outside, apart, written⟩ := run
  exact ⟨⟨by decide, _, _, place, outside, apart⟩, written, by decide⟩

end Rebuild

end PlaybookRepair
