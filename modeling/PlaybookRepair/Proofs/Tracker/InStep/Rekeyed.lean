import PlaybookRepair.Proofs.RekeyedLine
import PlaybookRepair.Proofs.Tracker.InStep.Push

/-!
# Trackers that differ in one key

Once a key has been written, or gathered in a shell block, it is never read again. Two trackers that
differ in the key of one written line (`Record.Settled`), or of one line of the open shell block
(`Record.Gathered`), therefore stay in step and go on to differ in that line only
(`Record.keeps_rekeyed`). The line may stand in the block that the open task runs; when that block
is opened again, the line is written again as well.
-/

namespace PlaybookRepair

open Catalog (keywordScope?)

/-- The lists of lines differ at one position, in a word of the line there. -/
def DiffersAt (old new : Text) (position : Nat) (first second : List Text) : Prop :=
  ∃ above line other below, first = above ++ line :: below ∧ second = above ++ other :: below ∧
    Text.Rekeyed old new line other ∧ above.length = position

namespace DiffersAt

variable {old new : Text} {position : Nat} {first second : List Text}

theorem append (differs : DiffersAt old new position first second) (lines : List Text) :
    DiffersAt old new position (first ++ lines) (second ++ lines) := by
  obtain ⟨above, line, other, below, rfl, rfl, rekeyed, length⟩ := differs
  exact ⟨above, line, other, below ++ lines, by simp, by simp, rekeyed, length⟩

/-- At every position the lines are the same or differ in the word. -/
theorem getElem? (differs : DiffersAt old new position first second) (index : Nat) :
    second[index]? = first[index]? ∨ ∃ line other, first[index]? = some line ∧
      second[index]? = some other ∧ Text.Rekeyed old new line other := by
  obtain ⟨above, line, other, below, rfl, rfl, rekeyed, _⟩ := differs
  rcases Nat.lt_trichotomy index above.length with before | rfl | behind
  · exact .inl (by simp [List.getElem?_append_left before])
  · exact .inr ⟨line, other, by simp, by simp, rekeyed⟩
  · obtain ⟨count, rfl⟩ : ∃ count, index = above.length + (count + 1) :=
      ⟨index - above.length - 1, by omega⟩
    exact .inl (by simp [List.getElem?_append_right])

theorem length_eq (differs : DiffersAt old new position first second) :
    second.length = first.length ∧ position < first.length := by
  obtain ⟨above, line, other, below, rfl, rfl, _, rfl⟩ := differs
  simp

/-- A stretch of lines apart from the position may be replaced. -/
theorem replace (differs : DiffersAt old new position first second) {start length : Nat}
    (apart : start + length ≤ position ∨ position < start) (lines tail : List Text) :
    ∃ moved, DiffersAt old new moved
        (first.take start ++ lines ++ first.drop (start + length) ++ tail)
        (second.take start ++ lines ++ second.drop (start + length) ++ tail) ∧
      (start + lines.length ≤ moved ∨ moved < start) ∧ (position < start → moved = position) := by
  obtain ⟨above, line, other, below, rfl, rfl, rekeyed, rfl⟩ := differs
  rcases apart with before | behind
  · refine ⟨_, ⟨above.take start ++ lines ++ above.drop (start + length), line, other,
      below ++ tail, ?_, ?_, rekeyed, rfl⟩, .inl ?_, fun behind => by omega⟩
    · rw [List.take_append_of_le_length (by omega), List.drop_append_of_le_length before]
      simp
    · rw [List.take_append_of_le_length (by omega), List.drop_append_of_le_length before]
      simp
    · simp only [List.length_append, List.length_take]
      omega
  · have split (line : Text) : (above ++ line :: below).take start =
        above ++ line :: below.take (start - above.length - 1) ∧
        (above ++ line :: below).drop (start + length) =
          below.drop (start + length - above.length - 1) := by
      obtain ⟨count, rfl⟩ : ∃ count, start = above.length + (count + 1) :=
        ⟨start - above.length - 1, by omega⟩
      constructor
      · rw [List.take_append, List.take_of_length_le (by omega)]
        simp
      · rw [List.drop_append, List.drop_eq_nil_of_le (by omega),
          show above.length + (count + 1) + length - above.length = count + length + 1 by omega]
        simp
    refine ⟨above.length, ⟨above, line, other, below.take (start - above.length - 1) ++ lines ++
      below.drop (start + length - above.length - 1) ++ tail, ?_, ?_, rekeyed, rfl⟩, .inr behind,
      fun _ => rfl⟩
    · rw [(split line).1, (split line).2]
      simp
    · rw [(split other).1, (split other).2]
      simp

/-- A list in which one of the lines differs may be put between lines that are the same. -/
theorem between (differs : DiffersAt old new position first second) (above below : List Text) :
    DiffersAt old new (above.length + position) (above ++ first ++ below)
      (above ++ second ++ below) := by
  obtain ⟨inner, line, other, rest, rfl, rfl, rekeyed, rfl⟩ := differs
  exact ⟨above ++ inner, line, other, rest ++ below, by simp, by simp, rekeyed, by simp⟩

end DiffersAt

/-! ## Shell blocks -/

namespace ShellBlock

/-- The second block is the first one with another word in one line of the body. -/
def Rekeyed (old new : Text) (first second : ShellBlock) : Prop :=
  ∃ above indent text other below, Text.Rekeyed old new text other ∧
    first.body = above ++ ⟨indent, text⟩ :: below ∧
    second = { first with body := above ++ ⟨indent, other⟩ :: below }

variable {old new : Text} {first second : ShellBlock}

theorem Rekeyed.behind (rekeyed : Rekeyed old new first second) : first.Behind 0 second := by
  obtain ⟨above, indent, text, other, below, _, body, rfl⟩ := rekeyed
  have notEmpty (text : Text) : (above ++ ⟨indent, text⟩ :: below).isEmpty = false :=
    List.isEmpty_eq_false_iff.mpr (by simp)
  refine ⟨rfl, rfl, ?_⟩
  unfold isBare
  rw [body, notEmpty, notEmpty]

theorem Rekeyed.isBare (rekeyed : Rekeyed old new first second) : first.isBare = false := by
  obtain ⟨above, indent, text, other, below, _, body, rfl⟩ := rekeyed
  simp [ShellBlock.isBare, body]

theorem Rekeyed.pushBlank (rekeyed : Rekeyed old new first second) :
    Rekeyed old new first.pushBlank second.pushBlank := by
  obtain ⟨above, indent, text, other, below, isRekeyed, body, rfl⟩ := rekeyed
  exact ⟨above, indent, text, other, below, isRekeyed, body, rfl⟩

theorem Rekeyed.reopen (rekeyed : Rekeyed old new first second) :
    Rekeyed old new first.reopen second.reopen := by
  obtain ⟨above, indent, text, other, below, isRekeyed, body, rfl⟩ := rekeyed
  exact ⟨above, indent, text, other, below, isRekeyed, body, rfl⟩

theorem Rekeyed.push (rekeyed : Rekeyed old new first second) (token : LineToken) :
    Rekeyed old new (first.push token) (second.push token) := by
  obtain ⟨above, indent, text, other, below, isRekeyed, body, rfl⟩ := rekeyed
  refine ⟨above, indent, text, other, below ++
    List.replicate first.pendingBlanks ⟨0, []⟩ ++ [scriptLine token], isRekeyed, ?_, ?_⟩
  · simp [ShellBlock.push, body]
  · simp [ShellBlock.push, body]

/-- A block differs after a line with another key. -/
theorem rekeyed_push (block : ShellBlock) {token other : LineToken}
    (indent : other.indent = token.indent)
    (content : Text.Rekeyed old new token.content other.content) :
    Rekeyed old new (block.push token) (block.push other) :=
  ⟨_, token.indent, token.content, other.content, [], content, rfl, by
    unfold ShellBlock.push scriptLine
    rw [indent]⟩

section

variable (oldKeyword : keywordScope? old ≠ none) (newKeyword : keywordScope? new ≠ none)
include oldKeyword newKeyword

/-- A column is put before both texts. -/
theorem rekeyed_indented {text other : Text} (rekeyed : Text.Rekeyed old new text other)
    (column : Nat) : Text.Rekeyed old new (indented column text) (indented column other) := by
  obtain ⟨notEmpty, otherNotEmpty, _⟩ := rekeyed.starts oldKeyword newKeyword
  rw [indented, indented, if_neg (by simpa using notEmpty), if_neg (by simpa using otherNotEmpty)]
  exact rekeyed.append_left fun c member => .inl (by rw [List.eq_of_mem_replicate member]; rfl)

/-- The written blocks differ in one line. -/
theorem Rekeyed.shellLines (rekeyed : Rekeyed old new first second) (mode : RebuildMode)
    (placement : Placement) : ∃ position, DiffersAt old new position
      (Tracker.shellLines mode first placement) (Tracker.shellLines mode second placement) := by
  obtain ⟨above, indent, text, other, below, isRekeyed, body, rfl⟩ := rekeyed
  obtain ⟨notEmpty, otherNotEmpty, _⟩ := isRekeyed.starts oldKeyword newKeyword
  have base : baseIndent (above ++ ⟨indent, other⟩ :: below) = baseIndent first.body := by
    unfold baseIndent
    rw [body, List.find?_append, List.find?_append,
      List.find?_cons_of_pos (by simpa using otherNotEmpty),
      List.find?_cons_of_pos (by simpa using notEmpty)]
    cases above.find? fun line => !line.text.isEmpty <;> rfl
  have hasBody (text : Text) : (!first.explicit && (above ++ ⟨indent, text⟩ :: below).isEmpty) =
      false := by
    rw [List.isEmpty_eq_false_iff.mpr (by simp), Bool.and_false]
  have isText : text.isEmpty = false := by simpa using notEmpty
  have isOther : other.isEmpty = false := by simpa using otherNotEmpty
  unfold Tracker.shellLines render
  dsimp only
  rw [base, body, hasBody, hasBody]
  simp only [Bool.false_eq_true, ↓reduceIte, List.map_append, List.map_cons, isText, isOther,
    List.cons_append]
  rw [← List.append_assoc, ← List.append_assoc, ← List.cons_append, ← List.cons_append]
  exact ⟨_, _, _, _, _, rfl, rfl, rekeyed_indented oldKeyword newKeyword isRekeyed _, rfl⟩

end

end ShellBlock

namespace Tracker.Record

/-! ## Places of blocks -/

/-- The lines of a block that may be written again stand in the place. -/
def Remembers (record : Record) (placement : Placement) : Prop :=
  record.reopened = some placement ∨ ∃ block, record.taskAction = some (.shell block placement)

/-- At most one block may be written again, and its place is among the lines. -/
structure Sound (record : Record) : Prop where
  single : record.reopened.isSome → record.taskAction = none
  within : ∀ placement, record.Remembers placement →
    placement.start + placement.length ≤ record.out.length

section

variable {record : Record}

/-- The open block is to be written at the place of an earlier one, or at the end. -/
theorem placement_cases (record : Record) (depth : Nat) (dashed : Bool) :
    record.reopened = some (record.placement depth dashed) ∨ record.reopened = none ∧
      (record.placement depth dashed).start = record.out.length ∧
      (record.placement depth dashed).length = 0 := by
  unfold placement
  cases record.reopened with
  | none => exact .inr ⟨rfl, rfl, rfl⟩
  | some placement => exact .inl rfl

theorem Sound.placement_le (sound : record.Sound) (depth : Nat) (dashed : Bool) :
    (record.placement depth dashed).start + (record.placement depth dashed).length ≤
      record.out.length := by
  rcases record.placement_cases depth dashed with reopened | ⟨_, start, length⟩
  · exact sound.within _ (.inl reopened)
  · omega

theorem Sound.append (sound : record.Sound) (lines : List Text) (ambiguities : List Ambiguity) :
    Sound { record with out := record.out ++ lines, ambiguities } where
  single := sound.single
  within := fun placement remembers =>
    (sound.within placement remembers).trans (by simp)

/-- Writing the open block keeps the places of blocks among the lines. -/
theorem Sound.close (sound : record.Sound) (mode : RebuildMode) (inTask : Bool)
    (block : ShellBlock) (depth : Nat) (dashed : Bool) :
    Sound (record.close mode inTask block (record.placement depth dashed)) where
  single := nofun
  within := by
    have inside := sound.placement_le depth dashed
    have place := record.placement_cases depth dashed
    generalize record.placement depth dashed = placement at inside place ⊢
    rintro other (isReopened | ⟨remembered, isAction⟩)
    · cases isReopened
    · unfold Record.close at isAction ⊢
      dsimp only at isAction ⊢
      split at isAction
      · split at isAction
        · cases isAction
        · cases isAction
          simp only [List.length_append, List.length_take, List.length_drop]
          omega
      · rcases place with reopened | ⟨_, start, length⟩
        · rw [sound.single (by rw [reopened]; rfl)] at isAction
          cases isAction
        · have := sound.within other (.inr ⟨_, isAction⟩)
          simp only [List.length_append, List.length_take, List.length_drop]
          omega

end

/-! ## Records that agree -/

/-- The records agree but for what has been reported. -/
structure Same (first second : Record) : Prop where
  out : second.out = first.out
  shell : second.shell = first.shell
  taskAction : second.taskAction = first.taskAction
  reopened : second.reopened = first.reopened
  sound : first.Sound

/-- No block is open. -/
def IsClosed (record : Record) : Prop := record.shell = none ∧ record.reopened = none

/-- The records agree and no block is open. -/
def SameClosed (first second : Record) : Prop := Same first second ∧ first.IsClosed

/-- The records agree and a block is open. -/
def SameOpen (first second : Record) : Prop := Same first second ∧ first.shell.isSome

theorem Same.block_eq {first second : Record} {block other : ShellBlock}
    (same : Same first second) (firstShell : first.shell = some block)
    (secondShell : second.shell = some other) : block = other :=
  Option.some.inj (firstShell.symm.trans (same.shell.symm.trans secondShell))

theorem ActionsAlike.refl (action : Option TaskAction) : ActionsAlike action action := by
  match action with
  | none => exact .none
  | some .other => exact .other
  | some (.shell block placement) => exact .shell block block placement

/-- Lines of two runs that are the same keep records that agree in agreement. -/
theorem keeps_same :
    Keeps 0 (fun token line => line = token.line) (fun _ => True) SameClosed SameOpen where
  behind := by
    rintro token _ rfl
    exact ⟨rfl, rfl, rfl⟩
  emitLine := fun line ⟨same, closed⟩ =>
    ⟨{ same with
      out := congrArg (· ++ [line]) same.out
      sound := same.sound.append [line] _ }, closed⟩
  copyLine := by
    rintro first second token _ rfl - - ⟨same, closed⟩
    exact ⟨{ same with
      out := congrArg (· ++ [_]) same.out
      sound := same.sound.append [_] _ }, closed⟩
  note := fun report ⟨same, closed⟩ =>
    ⟨{ same with sound := ⟨same.sound.single, same.sound.within⟩ }, closed⟩
  withAction := by
    rintro first second action isPlain ⟨same, closed⟩
    refine ⟨{ same with taskAction := rfl, sound := ⟨?_, ?_⟩ }, closed⟩
    · intro reopened
      change first.reopened.isSome at reopened
      rw [closed.2] at reopened
      cases reopened
    · rintro placement (reopened | ⟨block, isAction⟩)
      · exact same.sound.within placement (.inl reopened)
      · obtain rfl : action = _ := isAction
        rcases isPlain with isNone | isOther
        · cases isNone
        · cases isOther
  closed := fun ⟨same, closed⟩ => ⟨closed.1, same.shell.trans closed.1⟩
  lastLine := fun ⟨same, _⟩ => by rw [same.out]
  actions := fun ⟨same, _⟩ => same.taskAction ▸ ActionsAlike.refl _
  opens := by
    rintro first second token _ block other rfl - blocks ⟨same, _⟩
    refine ⟨{ same with
      shell := congrArg some ?_
      sound := ⟨same.sound.single, same.sound.within⟩ }, rfl⟩
    rcases blocks with ⟨rfl, rfl⟩ | ⟨rfl, rfl⟩ <;> rfl
  rejoins := by
    rintro first second token _ block other placement rfl - firstAction secondAction ⟨same, _⟩
    have sameAction := same.taskAction
    rw [firstAction, secondAction] at sameAction
    cases sameAction
    refine ⟨{ same with
        shell := rfl, taskAction := rfl, reopened := rfl, sound := ⟨fun _ => rfl, ?_⟩ }, rfl⟩
    rintro remembered (reopened | ⟨_, noAction⟩)
    · obtain rfl : placement = remembered := Option.some.inj reopened
      exact same.sound.within placement (.inr ⟨block, firstAction⟩)
    · cases noAction
  blocks := by
    rintro first second ⟨same, isOpen⟩
    obtain ⟨block, shell⟩ := Option.isSome_iff_exists.mp isOpen
    exact ⟨block, block, shell, same.shell.trans shell, rfl, rfl, rfl⟩
  place := fun ⟨same, _⟩ => ⟨same.reopened, congrArg List.length same.out⟩
  waits := by
    rintro first second block other firstShell secondShell ⟨same, _⟩
    obtain rfl := same.block_eq firstShell secondShell
    exact ⟨{ same with shell := rfl, sound := ⟨same.sound.single, same.sound.within⟩ }, rfl⟩
  absorbs := by
    rintro first second block other token _ rfl - firstShell secondShell ⟨same, _⟩
    obtain rfl := same.block_eq firstShell secondShell
    exact ⟨{ same with shell := rfl, sound := ⟨same.sound.single, same.sound.within⟩ }, rfl⟩
  closes := by
    rintro first second block other mode inTask depth dashed firstShell secondShell ⟨same, _⟩
    obtain rfl := same.block_eq firstShell secondShell
    refine ⟨⟨?_, rfl, ?_, rfl, same.sound.close mode inTask block depth dashed⟩, rfl, rfl⟩
    · unfold Record.close
      rw [same.out]
    · unfold Record.close
      rw [same.taskAction]

/-! ## Records that differ in one key -/

/-- What the tasks run is the same, with no place of a block around the position of the key; or it
is the block that the line with the key belongs to. -/
inductive ActionsAt (old new : Text) (position : Nat) (first second : Record) : Prop
  | apart (same : second.taskAction = first.taskAction)
      (single : first.reopened.isSome → first.taskAction = none)
      (apart : ∀ placement, first.Remembers placement →
        placement.start + placement.length ≤ position ∨ position < placement.start)
  | inside {block other : ShellBlock} {placement : Placement}
      (firstAction : first.taskAction = some (.shell block placement))
      (secondAction : second.taskAction = some (.shell other placement))
      (rekeyed : ShellBlock.Rekeyed old new block other) (fresh : first.reopened = none)
      (starts : placement.start ≤ position) (ends : position < placement.start + placement.length)
      (within : placement.start + placement.length ≤ first.out.length)

/-- The records differ in the key of one written line. -/
structure Settled (old new : Text) (first second : Record) : Prop where
  shell : second.shell = first.shell
  reopened : second.reopened = first.reopened
  differs : ∃ position, DiffersAt old new position first.out second.out ∧
    ActionsAt old new position first second

/-- The records differ in the key of one line of the open block, and what stands in its place. -/
structure Gathered (old new : Text) (first second : Record) : Prop where
  blocks : ∃ block other, first.shell = some block ∧ second.shell = some other ∧
    ShellBlock.Rekeyed old new block other
  reopened : second.reopened = first.reopened
  taskAction : second.taskAction = first.taskAction
  sound : first.Sound
  length : second.out.length = first.out.length
  around : ∀ depth dashed,
    second.out.take (first.placement depth dashed).start =
      first.out.take (first.placement depth dashed).start ∧
    second.out.drop ((first.placement depth dashed).start + (first.placement depth dashed).length) =
      first.out.drop ((first.placement depth dashed).start + (first.placement depth dashed).length)

/-- The records differ in the key of one written line, and no block is open. -/
def SettledClosed (old new : Text) (first second : Record) : Prop :=
  Settled old new first second ∧ first.IsClosed

/-- The records differ in the key of one line, and a block is open. -/
def Unsettled (old new : Text) (first second : Record) : Prop :=
  Settled old new first second ∧ first.shell.isSome ∨ Gathered old new first second

section

variable {old new : Text} {first second : Record}

theorem ActionsAt.append {position : Nat} (actions : ActionsAt old new position first second)
    (lines others : List Text) (reports otherReports : List Ambiguity)
    (shell other : Option ShellBlock) :
    ActionsAt old new position
      { first with out := first.out ++ lines, ambiguities := reports, shell }
      { second with out := second.out ++ others, ambiguities := otherReports, shell := other } := by
  cases actions with
  | apart same single apart => exact .apart same single apart
  | inside firstAction secondAction rekeyed fresh starts ends within =>
      exact .inside firstAction secondAction rekeyed fresh starts ends
        (within.trans (by simp))

theorem Settled.block_eq (settled : Settled old new first second) {block other : ShellBlock}
    (firstShell : first.shell = some block) (secondShell : second.shell = some other) :
    block = other :=
  Option.some.inj (firstShell.symm.trans (settled.shell.symm.trans secondShell))

/-- One more line keeps the records different in that key only. -/
theorem Settled.emitLine (settled : Settled old new first second) (line : Text) :
    Settled old new (first.emitLine line) (second.emitLine line) := by
  obtain ⟨position, differs, actions⟩ := settled.differs
  exact { settled with differs := ⟨position, differs.append [line], actions.append _ _ _ _ _ _⟩ }

/-- A block may be opened in both, or go on. -/
theorem Settled.withShell (settled : Settled old new first second) (block : ShellBlock) :
    Settled old new (first.withShell block) (second.withShell block) := by
  obtain ⟨position, differs, actions⟩ := settled.differs
  have still := actions.append [] [] first.ambiguities second.ambiguities (some block) (some block)
  simp only [List.append_nil] at still
  exact ⟨rfl, settled.reopened, position, differs, still⟩

/-- The block with the key may be opened again. -/
theorem Settled.rejoin (settled : Settled old new first second)
    {token : LineToken} {block other : ShellBlock} {placement : Placement}
    (firstAction : first.taskAction = some (.shell block placement))
    (secondAction : second.taskAction = some (.shell other placement)) :
    Unsettled old new (first.rejoin (block.reopen.push token) placement)
      (second.rejoin (other.reopen.push token) placement) := by
  obtain ⟨position, differs, actions⟩ := settled.differs
  cases actions with
  | apart same single apart =>
      rw [firstAction, secondAction] at same
      cases same
      refine .inl ⟨⟨rfl, rfl, position, differs, .apart rfl (fun _ => rfl) ?_⟩, rfl⟩
      rintro remembered (reopened | ⟨_, noAction⟩)
      · obtain rfl : placement = remembered := Option.some.inj reopened
        exact apart placement (.inr ⟨block, firstAction⟩)
      · cases noAction
  | inside isBlock isOther rekeyed fresh starts ends within =>
      rw [firstAction] at isBlock
      rw [secondAction] at isOther
      cases isBlock
      cases isOther
      obtain ⟨above, line, changed, below, firstOut, secondOut, _, rfl⟩ := differs
      refine .inr
        { blocks := ⟨_, _, rfl, rfl, rekeyed.reopen.push token⟩
          reopened := rfl
          taskAction := rfl
          sound := ⟨fun _ => rfl, ?_⟩
          length := by simp [Record.rejoin, firstOut, secondOut]
          around := fun _ _ => ?_ }
      · rintro remembered (reopened | ⟨_, noAction⟩)
        · obtain rfl : placement = remembered := Option.some.inj reopened
          exact within
        · cases noAction
      · change second.out.take placement.start = first.out.take placement.start ∧
          second.out.drop (placement.start + placement.length) =
            first.out.drop (placement.start + placement.length)
        rw [firstOut, secondOut]
        constructor
        · rw [List.take_append_of_le_length starts, List.take_append_of_le_length starts]
        · obtain ⟨count, after⟩ : ∃ count, placement.start + placement.length =
              above.length + (count + 1) :=
            ⟨placement.start + placement.length - above.length - 1, by omega⟩
          rw [after, List.drop_append, List.drop_append]
          simp

/-- The block with the key goes on. -/
theorem Gathered.withShell (gathered : Gathered old new first second)
    {block other next following : ShellBlock} (firstShell : first.shell = some block)
    (secondShell : second.shell = some other)
    (goesOn : ShellBlock.Rekeyed old new block other → ShellBlock.Rekeyed old new next following) :
    Gathered old new (first.withShell next) (second.withShell following) := by
  obtain ⟨_, _, isBlock, isOther, rekeyed⟩ := gathered.blocks
  rw [firstShell] at isBlock
  rw [secondShell] at isOther
  cases isBlock
  cases isOther
  exact { gathered with
    blocks := ⟨next, following, rfl, rfl, goesOn rekeyed⟩
    sound := ⟨gathered.sound.single, gathered.sound.within⟩ }

/-- The open block is written by both, apart from the line with the key. -/
theorem Settled.close (settled : Settled old new first second) (mode : RebuildMode) (inTask : Bool)
    (block : ShellBlock) (depth : Nat) (dashed : Bool) :
    Settled old new (first.close mode inTask block (first.placement depth dashed))
      (second.close mode inTask block (first.placement depth dashed)) := by
  obtain ⟨position, differs, actions⟩ := settled.differs
  have inside := differs.length_eq.2
  have place := first.placement_cases depth dashed
  generalize first.placement depth dashed = placement at place ⊢
  -- The block is written behind the line with the key, unless it has been written before.
  have fresh : first.reopened = none → position < placement.start ∧ placement.length = 0 := by
    intro noPlace
    rcases place with reopened | ⟨_, start, empty⟩
    · rw [noPlace] at reopened
      cases reopened
    · exact ⟨by omega, empty⟩
  have apart : placement.start + placement.length ≤ position ∨ position < placement.start := by
    cases actions with
    | apart _ _ apart =>
        rcases place with reopened | ⟨noPlace, _⟩
        · exact apart placement (.inl reopened)
        · exact .inr (fresh noPlace).1
    | inside _ _ _ noPlace => exact .inr (fresh noPlace).1
  obtain ⟨moved, stillDiffers, stillApart, sameIfBehind⟩ := differs.replace apart
    (shellLines mode block placement)
    (if mode = .incremental && block.pendingBlanks > 0 then [[]] else [])
  refine ⟨rfl, rfl, moved, stillDiffers, ?_⟩
  cases inTask with
  | true =>
      refine .apart rfl nofun ?_
      rintro other (isReopened | ⟨remembered, isAction⟩)
      · cases isReopened
      · change some (if block.isBare then TaskAction.other else _) = _ at isAction
        split at isAction
        · cases isAction
        · cases isAction
          exact stillApart
  | false =>
      cases actions with
      | apart same single apart =>
          refine .apart same nofun ?_
          rintro other (isReopened | ⟨remembered, isAction⟩)
          · cases isReopened
          · change first.taskAction = _ at isAction
            have noPlace : first.reopened = none := by
              rw [← Option.not_isSome_iff_eq_none]
              intro isPlace
              rw [single isPlace] at isAction
              cases isAction
            rw [sameIfBehind (fresh noPlace).1]
            exact apart other (.inr ⟨remembered, isAction⟩)
      | inside firstAction secondAction rekeyed noPlace starts ends within =>
          rw [sameIfBehind (fresh noPlace).1]
          refine .inside firstAction secondAction rekeyed rfl starts ends ?_
          have isEmpty := (fresh noPlace).2
          unfold Record.close
          simp only [List.length_append, List.length_take, List.length_drop]
          omega

variable (oldKeyword : keywordScope? old ≠ none) (newKeyword : keywordScope? new ≠ none)
include oldKeyword newKeyword

/-- The block with the key is written by both in the same place. -/
theorem Gathered.close (gathered : Gathered old new first second) {block other : ShellBlock}
    (rekeyed : ShellBlock.Rekeyed old new block other) (mode : RebuildMode) (inTask : Bool)
    (depth : Nat) (dashed : Bool) :
    Settled old new (first.close mode inTask block (first.placement depth dashed))
      (second.close mode inTask other (first.placement depth dashed)) := by
  have inside := gathered.sound.placement_le depth dashed
  have place := first.placement_cases depth dashed
  have around := gathered.around depth dashed
  generalize first.placement depth dashed = placement at inside place around ⊢
  obtain ⟨position, differs⟩ := rekeyed.shellLines oldKeyword newKeyword mode placement
  have length := differs.length_eq
  have isBare : block.isBare = false ∧ other.isBare = false :=
    ⟨rekeyed.isBare, rekeyed.behind.isBare.trans rekeyed.isBare⟩
  have pendingBlanks : other.pendingBlanks = block.pendingBlanks := by
    obtain ⟨_, _, _, _, _, _, _, rfl⟩ := rekeyed
    rfl
  have start : (first.out.take placement.start).length = placement.start := by
    rw [List.length_take]
    omega
  have stillDiffers := (differs.between (first.out.take placement.start)
    (first.out.drop (placement.start + placement.length))).append
      (if mode = .incremental && block.pendingBlanks > 0 then [[]] else [])
  rw [start] at stillDiffers
  refine ⟨rfl, rfl, placement.start + position, ?_, ?_⟩
  · unfold Record.close
    rw [around.1, around.2, pendingBlanks]
    exact stillDiffers
  · cases inTask with
    | true =>
        have firstAction : (first.close mode true block placement).taskAction = some (.shell block
            { placement with length := (shellLines mode block placement).length }) := by
          simp [Record.close, isBare]
        have secondAction : (second.close mode true other placement).taskAction = some (.shell other
            { placement with length := (shellLines mode block placement).length }) := by
          simp [Record.close, isBare, length]
        refine .inside firstAction secondAction rekeyed rfl (Nat.le_add_right _ _) ?_ ?_
        · exact Nat.add_lt_add_left length.2 _
        · unfold Record.close
          simp only [List.length_append, start]
          omega
    | false =>
        refine .apart gathered.taskAction nofun ?_
        rintro remembered (isReopened | ⟨_, isAction⟩)
        · cases isReopened
        · change first.taskAction = _ at isAction
          rcases place with reopened | ⟨_, isEnd, _⟩
          · rw [gathered.sound.single (by rw [reopened]; rfl)] at isAction
            cases isAction
          · have := gathered.sound.within remembered (.inr ⟨_, isAction⟩)
            exact .inl (by omega)

/-- The written lines end alike. -/
theorem Settled.lastLine (settled : Settled old new first second) :
    second.out.getLast?.any (!·.isEmpty) = first.out.getLast?.any (!·.isEmpty) := by
  obtain ⟨_, ⟨above, line, other, below, firstOut, secondOut, rekeyed, _⟩, _⟩ := settled.differs
  obtain ⟨notEmpty, otherNotEmpty, _⟩ := rekeyed.starts oldKeyword newKeyword
  have isLine : line.isEmpty = false := by simpa using notEmpty
  have isOther : other.isEmpty = false := by simpa using otherNotEmpty
  rw [firstOut, secondOut]
  cases below with
  | nil => simp [isLine, isOther]
  | cons next below => simp [List.getLast?_append, List.getLast?_cons_cons]

/-- Lines of two runs that are the same keep records that differ in one key different in that key
only. -/
theorem keeps_rekeyed :
    Keeps 0 (fun token line => line = token.line) (fun _ => True) (SettledClosed old new)
      (Unsettled old new) where
  behind := keeps_same.behind
  emitLine := fun line ⟨settled, closed⟩ => ⟨settled.emitLine line, closed⟩
  copyLine := by
    rintro first second token _ rfl - - ⟨settled, closed⟩
    exact ⟨settled.emitLine _, closed⟩
  note := by
    rintro first second report ⟨settled, closed⟩
    obtain ⟨position, differs, actions⟩ := settled.differs
    have still := actions.append [] [] (first.ambiguities ++ [report])
      (second.ambiguities ++ [report]) first.shell second.shell
    simp only [List.append_nil] at still
    exact ⟨⟨settled.shell, settled.reopened, position, differs, still⟩, closed⟩
  withAction := by
    rintro first second action isPlain ⟨settled, closed⟩
    obtain ⟨position, differs, _⟩ := settled.differs
    refine ⟨⟨settled.shell, settled.reopened, position, differs, .apart rfl ?_ ?_⟩, closed⟩
    · intro reopened
      change first.reopened.isSome at reopened
      rw [closed.2] at reopened
      cases reopened
    · rintro placement (reopened | ⟨block, isAction⟩)
      · change first.reopened = _ at reopened
        rw [closed.2] at reopened
        cases reopened
      · obtain rfl : action = _ := isAction
        rcases isPlain with isNone | isOther
        · cases isNone
        · cases isOther
  closed := fun ⟨settled, closed⟩ => ⟨closed.1, settled.shell.trans closed.1⟩
  lastLine := fun ⟨settled, _⟩ => settled.lastLine oldKeyword newKeyword
  actions := by
    rintro first second ⟨settled, _⟩
    obtain ⟨_, _, actions⟩ := settled.differs
    cases actions with
    | apart same => exact same ▸ ActionsAlike.refl _
    | inside firstAction secondAction =>
        rw [firstAction, secondAction]
        exact .shell _ _ _
  opens := by
    rintro first second token _ block other rfl - blocks ⟨settled, _⟩
    rcases blocks with ⟨rfl, rfl⟩ | ⟨rfl, rfl⟩
    · exact .inl ⟨settled.withShell _, rfl⟩
    · exact .inl ⟨settled.withShell _, rfl⟩
  rejoins := by
    rintro first second token _ block other placement rfl - firstAction secondAction
      ⟨settled, closed⟩
    exact settled.rejoin firstAction secondAction
  blocks := by
    rintro first second (⟨settled, isOpen⟩ | gathered)
    · obtain ⟨block, shell⟩ := Option.isSome_iff_exists.mp isOpen
      exact ⟨block, block, shell, settled.shell.trans shell, rfl, rfl, rfl⟩
    · obtain ⟨block, other, firstShell, secondShell, rekeyed⟩ := gathered.blocks
      exact ⟨block, other, firstShell, secondShell, rekeyed.behind⟩
  place := by
    rintro first second (⟨settled, _⟩ | gathered)
    · obtain ⟨_, differs, _⟩ := settled.differs
      exact ⟨settled.reopened, differs.length_eq.1⟩
    · exact ⟨gathered.reopened, gathered.length⟩
  waits := by
    rintro first second block other firstShell secondShell (⟨settled, _⟩ | gathered)
    · obtain rfl := settled.block_eq firstShell secondShell
      exact .inl ⟨settled.withShell _, rfl⟩
    · exact .inr (gathered.withShell firstShell secondShell fun rekeyed => rekeyed.pushBlank)
  absorbs := by
    rintro first second block other token _ rfl - firstShell secondShell (⟨settled, _⟩ | gathered)
    · obtain rfl := settled.block_eq firstShell secondShell
      exact .inl ⟨settled.withShell _, rfl⟩
    · exact .inr (gathered.withShell firstShell secondShell fun rekeyed => rekeyed.push token)
  closes := by
    rintro first second block other mode inTask depth dashed firstShell secondShell
      (⟨settled, _⟩ | gathered)
    · obtain rfl := settled.block_eq firstShell secondShell
      exact ⟨settled.close mode inTask block depth dashed, rfl, rfl⟩
    · obtain ⟨_, _, isBlock, isOther, rekeyed⟩ := gathered.blocks
      rw [firstShell] at isBlock
      rw [secondShell] at isOther
      cases isBlock
      cases isOther
      exact ⟨gathered.close oldKeyword newKeyword rekeyed mode inTask depth dashed, rfl, rfl⟩

end

end Tracker.Record

end PlaybookRepair
