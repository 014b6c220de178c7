import PlaybookRepair.Proofs.Rebuild.Scope

/-!
# The outline of a document

A playbook is outlined by the columns of its lines: plays start at column 0, their keys and the list
markers of tasks stand at column 2, everything else of a play stands at column 4 or deeper. A line is
thus allowed or not by the part of the document that the lines above have led to
(`Outline.Follows`), and the lines of a document lead from part to part (`Outline.Path`). The lines
of a task lead on from wherever a task may stand, so those of a shell block can give way to others
(`Outline.Path.replace_shellLines`).
-/

namespace PlaybookRepair

namespace Text

/-- The number of spaces that a line starts with. -/
def column (line : Text) : Nat := (line.takeWhile (· = ' ')).length

/-- The text starts with a character that is neither a space nor a hyphen. -/
def StartsKey (text : Text) : Prop := ∃ c rest, text = c :: rest ∧ c ≠ ' ' ∧ c ≠ '-'

theorem column_replicate (count : Nat) (text : Text) :
    column (List.replicate count ' ' ++ text) = count + column text := by
  induction count with
  | zero => simp
  | succ count ih =>
      unfold column at ih ⊢
      rw [List.replicate_succ, List.cons_append, List.takeWhile_cons_of_pos (by simp),
        List.length_cons, ih]
      omega

theorem StartsKey.column_eq {text : Text} (starts : text.StartsKey) : column text = 0 := by
  obtain ⟨c, rest, rfl, notSpace, _⟩ := starts
  rw [column, List.takeWhile_cons_of_neg (by simpa using notSpace), List.length_nil]

theorem StartsKey.append {text : Text} (starts : text.StartsKey) (more : Text) :
    (text ++ more).StartsKey := by
  obtain ⟨c, rest, rfl, start⟩ := starts
  exact ⟨c, rest ++ more, rfl, start⟩

end Text

/-- A moved text that is not empty stands at least as deep as the column it was moved to. -/
theorem le_column_indented (column : Nat) {text : Text} (notEmpty : text ≠ []) :
    column ≤ (indented column text).column := by
  rw [indented_of_ne_nil column notEmpty, Text.column_replicate]
  omega

namespace Outline

/-- The line stands where the list markers of tasks do and starts with one. -/
def IsTaskItem (line : Text) : Prop :=
  line.column = taskColumn ∧ (line.drop taskColumn).head? = some '-'

/-- The line stands where the keys of plays do and is none of the list markers there. -/
def IsPlayKey (line : Text) : Prop :=
  line.column = playKeyColumn ∧ (line.drop playKeyColumn).head? ≠ some '-'

/-- The line is empty or stands where nothing but the content of tasks and values does. -/
def IsInner (line : Text) : Prop := line = [] ∨ taskKeyColumn ≤ line.column

instance (line : Text) : Decidable (IsTaskItem line) := inferInstanceAs (Decidable (_ ∧ _))

instance (line : Text) : Decidable (IsPlayKey line) := inferInstanceAs (Decidable (_ ∧ _))

instance (line : Text) : Decidable (IsInner line) := inferInstanceAs (Decidable (_ ∨ _))

theorem isTaskItem_indented (text : Text) :
    IsTaskItem (indented taskColumn (listItemText text)) := by
  rw [indented_listItemText]
  exact ⟨rfl, rfl⟩

theorem isPlayKey_indented {text : Text} (starts : text.StartsKey) :
    IsPlayKey (indented playKeyColumn text) := by
  have column := starts.column_eq
  obtain ⟨c, rest, rfl, _, notHyphen⟩ := starts
  rw [indented_of_ne_nil _ (List.cons_ne_nil _ _)]
  refine ⟨by rw [Text.column_replicate, column, Nat.add_zero], ?_⟩
  rw [List.drop_left' (List.length_replicate ..)]
  simpa using notHyphen

theorem isInner_indented {column : Nat} (deep : taskKeyColumn ≤ column) (text : Text) :
    IsInner (indented column text) := by
  by_cases empty : text = []
  · exact .inl (by rw [empty]; rfl)
  · exact .inr (deep.trans (le_column_indented column empty))

/-- The line starts with a list marker at column 0. -/
def IsTopItem (line : Text) : Prop := listItemText [] <+: line

instance (line : Text) : Decidable (IsTopItem line) := inferInstanceAs (Decidable (_ <+: _))

theorem IsTopItem.column_eq {line : Text} (isItem : IsTopItem line) : line.column = 0 := by
  obtain ⟨rest, rfl⟩ := isItem
  rfl

/-- A line that has been moved to the right has no list marker at column 0. -/
theorem not_isTopItem_indented {column : Nat} (moved : 0 < column) (text : Text) :
    ¬ IsTopItem (indented column text) := by
  intro isItem
  by_cases empty : text = []
  · rw [empty] at isItem
    exact absurd (show IsTopItem [] from isItem) (by decide)
  · exact absurd isItem.column_eq
      (Nat.ne_of_gt (moved.trans_le (le_column_indented column empty)))

theorem IsTaskItem.not_isTopItem {line : Text} (isItem : IsTaskItem line) : ¬ IsTopItem line :=
  fun onTop => absurd (onTop.column_eq.symm.trans isItem.1) (by decide)

theorem IsInner.not_isTopItem {line : Text} (isInner : IsInner line) : ¬ IsTopItem line := by
  intro onTop
  rcases isInner with rfl | deep
  · exact absurd onTop (by decide)
  · rw [onTop.column_eq] at deep
    exact absurd deep (by decide)

/-- Where the lines of a document have led. -/
inductive Part
  /-- Outside of all plays of a playbook. -/
  | outside
  /-- In a play, with no list of tasks open. -/
  | play
  /-- In a list of tasks of a play. -/
  | tasks
  /-- In a file that is a list of tasks, before or after its first line. -/
  | list (started : Bool)
deriving DecidableEq

namespace Part

/-- The part belongs to a playbook. -/
def InPlaybook (part : Part) : Prop := ∀ started, part ≠ .list started

/-- Tasks may stand in the part. -/
def HoldsTasks (part : Part) : Prop := part = .tasks ∨ ∃ started, part = .list started

/-- The part goes on with lines that belong to the last one. -/
def IsStarted (part : Part) : Prop := part ≠ .list false

/-- The part after a task has begun. -/
def afterItem : Part → Part
  | list _ => list true
  | part => part

theorem HoldsTasks.afterItem {part : Part} (holds : part.HoldsTasks) :
    part.afterItem.HoldsTasks := by
  rcases holds with rfl | ⟨started, rfl⟩
  · exact .inl rfl
  · exact .inr ⟨true, rfl⟩

theorem isStarted_afterItem (part : Part) : part.afterItem.IsStarted := by
  cases part <;> nofun

end Part

/-- A written line, with the line of the source that it copies if it is a copy. -/
structure Row where
  text : Text
  copied : Option LineToken := none

/-- The line is the header of a play. -/
def IsPlayHeader (source : List LineToken) (line : Text) : Prop :=
  ∃ token ∈ source, token.role = .playHeader ∧ line = listItemText token.keyedText

/-- The line is the key that has opened a list of tasks, or a supplied one. -/
def IsSectionKey (source : List LineToken) (line : Text) : Prop :=
  line = Tracker.suppliedTasks ∨ ∃ token ∈ source, token.role = .playAttribute ∧
    token.key.any Catalog.isTaskSection ∧ token.opensBlock ∧
    ¬ InlineValue.isBlockIndicator token.value ∧ line = indented playKeyColumn token.keyedText

/-- The line is the copy of a comment, a document marker or a continuation. -/
def IsCopy (token : LineToken) (line : Text) : Prop :=
  (token.role = .comment ∨ token.role = .continuation) ∧ line = Text.trimEnd token.line.raw ∨
    token.role = .documentMarker ∧ line = token.content

/-- The line may follow in a part of the document, and leads to another one. In a list of tasks
lines are also copied from the source, where they stand at any column. -/
inductive Follows (mode : RebuildMode) (source : List LineToken) : Part → Row → Part → Prop
  | outside {line : Text} (noItem : ¬ IsTopItem line) :
      Follows mode source .outside { text := line } .outside
  | top {part : Part} {line : Text} (inPlaybook : part.InPlaybook) (notEmpty : line ≠ [])
      (column : line.column = 0) (noItem : ¬ IsTopItem line) :
      Follows mode source part { text := line } .outside
  | header {part : Part} {line : Text} (inPlaybook : part.InPlaybook)
      (isHeader : IsPlayHeader source line) : Follows mode source part { text := line } .play
  | key {part : Part} {line : Text} (inPlay : part = .play ∨ part = .tasks)
      (isKey : IsPlayKey line) : Follows mode source part { text := line } .play
  | opener {part : Part} {line : Text} (inPlay : part = .play ∨ part = .tasks)
      (isKey : IsPlayKey line) (opens : IsSectionKey source line) :
      Follows mode source part { text := line } .tasks
  | item {part : Part} {line : Text} (holdsTasks : part.HoldsTasks) (isItem : IsTaskItem line) :
      Follows mode source part { text := line } part.afterItem
  | inner {part : Part} {line : Text} (isStarted : part.IsStarted) (isInner : IsInner line) :
      Follows mode source part { text := line } part
  | copy {token : LineToken} {line : Text} (incremental : mode = .incremental)
      (isCopy : IsCopy token line) :
      Follows mode source (.list true) ⟨line, some token⟩ (.list true)

/-- The lines lead from one part of the document to another. -/
inductive Path (mode : RebuildMode) (source : List LineToken) : Part → List Row → Part → Prop
  | nil (part : Part) : Path mode source part [] part
  | cons {first middle last : Part} {row : Row} {rows : List Row}
      (follows : Follows mode source first row middle) (path : Path mode source middle rows last) :
      Path mode source first (row :: rows) last

section

variable {mode : RebuildMode} {source : List LineToken} {first middle last : Part}
  {row : Row} {rows more : List Row}

theorem Path.append (path : Path mode source first rows middle)
    (rest : Path mode source middle more last) : Path mode source first (rows ++ more) last := by
  induction path with
  | nil => exact rest
  | cons follows _ ih => exact .cons follows (ih rest)

theorem Path.single (follows : Follows mode source first row last) :
    Path mode source first [row] last :=
  .cons follows (.nil last)

/-- A path through two lists of lines passes between them. -/
theorem Path.split (path : Path mode source first (rows ++ more) last) :
    ∃ middle, Path mode source first rows middle ∧ Path mode source middle more last := by
  induction rows generalizing first with
  | nil => exact ⟨first, .nil first, path⟩
  | cons row rows ih =>
      cases path with
      | cons follows rest =>
          obtain ⟨middle, before, after⟩ := ih rest
          exact ⟨middle, .cons follows before, after⟩

/-- Lines of a playbook stay in the playbook. -/
theorem Path.inPlaybook (path : Path mode source first rows last)
    (inPlaybook : first.InPlaybook) : last.InPlaybook := by
  induction path with
  | nil => exact inPlaybook
  | cons follows _ ih =>
      apply ih
      cases follows with
      | outside | top | header | key | opener => nofun
      | item holdsTasks =>
          rcases holdsTasks with rfl | ⟨started, rfl⟩
          · nofun
          · exact (inPlaybook started rfl).elim
      | inner => exact inPlaybook
      | copy => exact (inPlaybook true rfl).elim

/-! ## Lines of tasks -/

/-- Lines as they are written when they are no copies. -/
def fresh (lines : List Text) : List Row := lines.map fun text => { text }

theorem map_text_fresh (lines : List Text) : (fresh lines).map Row.text = lines := by
  rw [fresh, List.map_map]
  exact List.map_id lines

theorem filterMap_copied_fresh (lines : List Text) : (fresh lines).filterMap Row.copied = [] := by
  rw [fresh, List.filterMap_map]
  exact List.filterMap_eq_nil_iff.mpr fun _ _ => rfl

/-- Inner lines lead nowhere else. -/
theorem path_inner {lines : List Text} (isStarted : first.IsStarted)
    (areInner : ∀ line ∈ lines, IsInner line) : Path mode source first (fresh lines) first := by
  induction lines with
  | nil => exact .nil first
  | cons line lines ih =>
      exact .cons (.inner isStarted (areInner line List.mem_cons_self))
        (ih fun other member => areInner other (List.mem_cons_of_mem _ member))

/-- Outside of plays any lines without a list marker at column 0 lead on. -/
theorem path_outside {lines : List Text} (noItem : ∀ line ∈ lines, ¬ IsTopItem line) :
    Path mode source .outside (fresh lines) .outside := by
  induction lines with
  | nil => exact .nil _
  | cons line lines ih =>
      exact .cons (.outside (noItem line List.mem_cons_self))
        (ih fun other member => noItem other (List.mem_cons_of_mem _ member))

/-- An inner line leads nowhere else. -/
theorem Follows.of_isInner (follows : Follows mode source first row last)
    (isInner : IsInner row.text) : last = first ∧ first.IsStarted := by
  -- The lines that lead from part to part are not empty and stand at column 0 or 2.
  have contradicts {line : Text} (same : IsInner line) (notEmpty : line ≠ [])
      (column : line.column < taskKeyColumn) : False :=
    same.elim notEmpty (Nat.not_le_of_lt column)
  have notEmpty {line : Text} {column : Nat} (column : line.column = column + 1) : line ≠ [] := by
    rintro rfl
    cases column
  cases follows with
  | outside | copy => exact ⟨rfl, nofun⟩
  | inner isStarted => exact ⟨rfl, isStarted⟩
  | top _ notEmpty column => exact (contradicts isInner notEmpty (by simp [column]; decide)).elim
  | header _ isHeader =>
      obtain ⟨token, _, _, rfl⟩ := isHeader
      exact (contradicts isInner (List.cons_ne_nil _ _) (Nat.zero_lt_succ _)).elim
  | key _ isKey | opener _ isKey =>
      exact (contradicts isInner (notEmpty isKey.1) (by rw [isKey.1]; decide)).elim
  | item _ isItem =>
      exact (contradicts isInner (notEmpty isItem.1) (by rw [isItem.1]; decide)).elim

/-- A list marker of a task begins a task, except outside of plays. -/
theorem Follows.of_isTaskItem (follows : Follows mode source first row last)
    (isItem : IsTaskItem row.text) :
    first.HoldsTasks ∧ last = first.afterItem ∨ first = .outside ∧ last = .outside := by
  cases follows with
  | outside => exact .inr ⟨rfl, rfl⟩
  | top _ _ column => exact absurd (column.symm.trans isItem.1) (by decide)
  | header _ isHeader =>
      obtain ⟨token, _, _, rfl⟩ := isHeader
      exact absurd isItem.1 (Nat.zero_ne_add_one _)
  | key _ isKey | opener _ isKey => exact (isKey.2 isItem.2).elim
  | item holdsTasks => exact .inl ⟨holdsTasks, rfl⟩
  | inner _ isInner =>
      rcases isInner with rfl | deep
      · exact absurd isItem.1 (by decide)
      · rw [isItem.1] at deep
        exact absurd deep (by decide)
  | copy => exact .inl ⟨.inr ⟨true, rfl⟩, rfl⟩

theorem Path.of_isInner (path : Path mode source first rows last)
    (areInner : ∀ row ∈ rows, IsInner row.text) : last = first := by
  induction path with
  | nil => rfl
  | cons follows _ ih =>
      rw [ih fun other member => areInner other (List.mem_cons_of_mem _ member)]
      exact (follows.of_isInner (areInner _ List.mem_cons_self)).1

/-! ## Shell blocks -/

/-- The lines of a block below its key are deeper than the key. -/
theorem exists_shellLines (writer : RebuildMode) (block : ShellBlock) (placement : Placement) :
    ∃ script, Tracker.shellLines writer block placement = block.headerLine placement :: script ∧
      ∀ line ∈ script, ∃ column text, placement.depth < column ∧ line = indented column text := by
  have below (offset : Nat) (deeper : 0 < offset) (text : Text) : ∃ column moved,
      placement.depth < column ∧
        indented (placement.depth + offset) text = indented column moved :=
    ⟨_, text, Nat.lt_add_of_pos_right deeper, rfl⟩
  by_cases isLine : !block.explicit && block.body.isEmpty
  · rw [Tracker.shellLines, ShellBlock.render_of_line isLine]
    exact ⟨[], rfl, List.forall_mem_nil _⟩
  · rw [Tracker.shellLines, ShellBlock.render_of_script isLine]
    refine ⟨_, rfl, ?_⟩
    intro line member
    obtain ⟨⟨offset, text⟩, written, rfl⟩ := List.mem_map.mp member
    rcases List.mem_append.mp written with seed | body
    · obtain ⟨value, _, same⟩ := List.mem_map.mp seed
      obtain ⟨rfl, rfl⟩ := Prod.mk.inj same
      exact below _ (by decide) _
    · obtain ⟨scriptLine, _, same⟩ := List.mem_map.mp body
      split at same
      · obtain ⟨rfl, rfl⟩ := Prod.mk.inj same
        exact ⟨placement.depth + 1, [], Nat.lt_succ_self _, rfl⟩
      · obtain ⟨rfl, rfl⟩ := Prod.mk.inj same
        exact below _ (Nat.add_pos_left (by decide) _) _

section

variable {placement : Placement} (writer : RebuildMode) (block : ShellBlock)

/-- The lines of a block in a task: a list marker or an inner line, and inner lines. -/
theorem exists_shellLines_inner (inTask : placement.depth = taskKeyColumn) :
    ∃ script, Tracker.shellLines writer block placement = block.headerLine placement :: script ∧
      (if placement.dashed then IsTaskItem (block.headerLine placement)
        else IsInner (block.headerLine placement)) ∧
      ∀ line ∈ script, IsInner line := by
  obtain ⟨script, lines, deeper⟩ := exists_shellLines writer block placement
  refine ⟨script, lines, ?_, ?_⟩
  · unfold ShellBlock.headerLine
    split
    · exact isTaskItem_indented _
    · exact isInner_indented (Nat.le_of_eq inTask.symm) _
  · intro line member
    obtain ⟨column, text, isDeeper, rfl⟩ := deeper line member
    exact isInner_indented (inTask ▸ Nat.le_of_lt isDeeper) text

/-- No line of a block in a task has a list marker at column 0. -/
theorem not_isTopItem_of_mem_shellLines (inTask : placement.depth = taskKeyColumn) {line : Text}
    (member : line ∈ Tracker.shellLines writer block placement) : ¬ IsTopItem line := by
  obtain ⟨script, lines, header, areInner⟩ := exists_shellLines_inner writer block inTask
  rw [lines] at member
  rcases List.mem_cons.mp member with rfl | below
  · split at header
    · exact header.not_isTopItem
    · exact header.not_isTopItem
  · exact (areInner line below).not_isTopItem

/-- A block in a task begins the task if it carries its list marker. -/
theorem path_shellLines (inTask : placement.depth = taskKeyColumn)
    (allowed : if placement.dashed then first.HoldsTasks else first.IsStarted) :
    Path mode source first (fresh (Tracker.shellLines writer block placement))
      (if placement.dashed then first.afterItem else first) := by
  obtain ⟨script, lines, header, areInner⟩ := exists_shellLines_inner writer block inTask
  rw [lines]
  split at header
  · next dashed =>
      rw [if_pos dashed] at allowed ⊢
      exact .cons (.item allowed header) (path_inner first.isStarted_afterItem areInner)
  · next notDashed =>
      rw [if_neg notDashed] at allowed ⊢
      exact .cons (.inner allowed header) (path_inner allowed areInner)

/-- A block outside of plays leads outside. -/
theorem path_shellLines_outside (inPlaybook : first.InPlaybook) (onTop : placement.depth = 0)
    (notDashed : placement.dashed = false) (startsKey : block.headerText.StartsKey) :
    Path mode source first (fresh (Tracker.shellLines writer block placement)) .outside := by
  obtain ⟨script, lines, deeper⟩ := exists_shellLines writer block placement
  have header : block.headerLine placement = block.headerText := by
    rw [ShellBlock.headerLine, if_neg (by simp [notDashed]), onTop,
      indented_of_ne_nil 0 block.headerText_ne_nil]
    rfl
  rw [lines, header]
  refine .cons (.top inPlaybook block.headerText_ne_nil startsKey.column_eq ?_) (path_outside ?_)
  · obtain ⟨c, rest, same, _, notHyphen⟩ := startsKey
    rintro ⟨more, isItem⟩
    rw [same] at isItem
    exact notHyphen (List.cons.inj isItem).1.symm
  · intro line member
    obtain ⟨column, text, isDeeper, rfl⟩ := deeper line member
    exact not_isTopItem_indented (Nat.zero_lt_of_lt isDeeper) text

/-- The lines of a block in a task may give way to those of another block at its place. -/
theorem Path.replace_shellLines {old : ShellBlock} {written : List Row}
    (path : Path mode source first written last)
    (texts : written.map Row.text = Tracker.shellLines writer old placement)
    (inTask : placement.depth = taskKeyColumn) :
    Path mode source first (fresh (Tracker.shellLines writer block placement)) last := by
  obtain ⟨script, lines, header, areInner⟩ := exists_shellLines_inner writer old inTask
  rw [lines] at texts
  obtain ⟨row, rest, rfl, isHeader, isScript⟩ := List.map_eq_cons_iff.mp texts
  have innerRest : ∀ row ∈ rest, IsInner row.text := fun row member =>
    areInner _ (isScript ▸ List.mem_map_of_mem member)
  have leads : (if placement.dashed then first.HoldsTasks else first.IsStarted) →
      Path mode source first (fresh (Tracker.shellLines writer block placement))
        (if placement.dashed then first.afterItem else first) :=
    path_shellLines writer block inTask
  cases path with
  | cons follows path =>
      obtain rfl := path.of_isInner innerRest
      rw [← isHeader] at header
      split at header
      · next dashed =>
          rw [if_pos dashed, if_pos dashed] at leads
          rcases follows.of_isTaskItem header with ⟨holdsTasks, rfl⟩ | ⟨rfl, rfl⟩
          · exact leads holdsTasks
          · exact path_outside fun line => not_isTopItem_of_mem_shellLines writer block inTask
      · next notDashed =>
          rw [if_neg notDashed, if_neg notDashed] at leads
          obtain ⟨rfl, isStarted⟩ := follows.of_isInner header
          exact leads isStarted

end

end

end Outline

end PlaybookRepair
