import PlaybookRepair.Proofs.Outline.Run

/-!
# The outline of a rebuilt document

Once the document is finished, its lines still follow one another as the outline demands
(`Rebuild.exists_outline`). A playbook that is rebuilt in full is therefore a sequence of well-shaped
plays, with tasks only below the key of a list of tasks (`rebuild_plays_shaped`), and a rebuilt list of
tasks is a sequence of items (`rebuild_tasks_shaped`).
-/

namespace PlaybookRepair

open Outline Rebuild

namespace Tracker

theorem dropTrailingEmpty_prefix (lines : List Text) : dropTrailingEmpty lines <+: lines := by
  have suffix := List.dropWhile_suffix (·.isEmpty) (l := lines.reverse)
  rw [← List.reverse_prefix, List.reverse_reverse] at suffix
  exact suffix

end Tracker

namespace Rebuild

variable {mode : RebuildMode} {kind : FileKind} {text : Text}

/-- The finished lines of a document are the pieces between its line feeds. -/
theorem pieces_rebuild (mode : RebuildMode) (kind : FileKind) (text : Text) :
    Text.pieces '\n' (rebuild mode kind text).text =
      (trackerAfter mode kind (tokens mode kind text)).finishedLines ++ [[]] := by
  obtain ⟨kept, ledger, sublist, _⟩ :=
    ledger_run mode kind text (tokens mode kind text) [] (List.append_nil _).symm
  obtain ⟨⟨pieces, recorded, account⟩, _⟩ := ledger.flushShell
  rw [rebuild_eq]
  generalize trackerAfter mode kind (tokens mode kind text) = tracker at *
  obtain ⟨closed, isMode, _⟩ := tracker.flushShell_state
  obtain ⟨entered, noMarker⟩ := account.accountFor tracker.mode
  have out : tracker.flushShell.out = leading tracker.mode ++
      (pieces.flatMap (Piece.entries tracker.mode)).map Entry.text := by
    rw [(recorded.of_closed closed).2.1, isMode, account.entries_texts]
  have areLines : ∀ token ∈ kept, token.Classified ∧ token.line.raw.IsLine := by
    intro token member
    have isToken := List.mem_of_mem_filter (sublist.subset member)
    exact ⟨classified_of_mem isToken, isLine_of_mem_tokens isToken⟩
  obtain ⟨top, body, dropped, split, _, isTop, notEmpty, lines⟩ :=
    Tracker.exists_finishedLines out
  change Text.pieces '\n' (Tracker.joinLines tracker.finishedLines) = _
  rw [lines]
  refine Text.pieces_joinLines (by simpa using notEmpty) fun line member => ?_
  rw [List.map_append] at member
  rcases List.mem_append.mp member with isMarker | inBody
  · rcases isTop with rfl | rfl
    · cases isMarker
    · rw [List.mem_singleton.mp isMarker]
      decide
  · refine entered.isLine areLines line ?_
    rw [split, List.map_append]
    exact List.mem_append_left _ inBody

/-- The finished lines of a document are laid out, below its marker. -/
theorem exists_outline (regular : IsRegular mode kind text) :
    ∃ marker rows last,
      Text.pieces '\n' (rebuild mode kind text).text =
        marker ++ rows.map Row.text ++ [[]] ∧
      (marker = [] ∧ mode = .incremental ∨ marker = ["---".toList]) ∧
      Outline.Path mode (tokens mode kind text) (Tracker.firstPart mode kind) rows last ∧
      (rows.filterMap Row.copied).Sublist (tokens mode kind text) := by
  have split : tokens mode kind text = tokens mode kind text ++ [] := (List.append_nil _).symm
  have outlined := (outlined_run regular _ [] split).flushShell (holdsBlock_run mode kind text split)
  have isMode := trackerAfter_mode mode kind text _ [] split
  have isKind := trackerAfter_kind mode kind text _ [] split
  rw [pieces_rebuild]
  generalize trackerAfter mode kind (tokens mode kind text) = tracker at *
  have stillMode := tracker.flushShell_state.2.1.trans isMode
  have stillKind := tracker.flushShell_play_kind.2.trans isKind
  obtain ⟨last, ⟨rows, out, path, copied⟩, _⟩ := outlined.laid
  rw [stillMode, stillKind] at path
  rw [stillMode] at out
  obtain ⟨rest, whole⟩ := Tracker.dropTrailingEmpty_prefix (rows.map Row.text)
  obtain ⟨kept, dropped, rfl, isKept, _⟩ := List.map_eq_append_iff.mp whole.symm
  obtain ⟨middle, path, _⟩ := path.split
  have stillCopied : (kept.filterMap Row.copied).Sublist (tokens mode kind text) := by
    rw [List.filterMap_append] at copied
    exact (List.sublist_append_left ..).trans copied
  cases mode with
  | canonical =>
      refine ⟨["---".toList], kept, middle, ?_, .inr rfl, path, stillCopied⟩
      have lines : Tracker.dropTrailingEmpty tracker.flushShell.out =
          "---".toList :: kept.map Row.text := by
        rw [out, isKept, ← Tracker.dropTrailingEmpty_cons (by decide)]
        rfl
      rw [Tracker.finishedLines, lines, isMode]
      rfl
  | incremental =>
      have lines : Tracker.dropTrailingEmpty tracker.flushShell.out = kept.map Row.text := by
        rw [out, isKept]
        rfl
      by_cases marked : Tracker.startsWithMarker (kept.map Row.text)
      · refine ⟨[], kept, middle, ?_, .inl ⟨rfl, rfl⟩, path, stillCopied⟩
        rw [Tracker.finishedLines, lines, isMode, marked]
        rfl
      · refine ⟨["---".toList], kept, middle, ?_, .inr rfl, path, stillCopied⟩
        rw [Tracker.finishedLines, lines, isMode, Bool.eq_false_iff.mpr marked]
        rfl

end Rebuild

/-! ## Plays -/

namespace Outline

/-- The line is empty or does not start at column 0. -/
def isBelowTop (line : Text) : Bool := line.isEmpty || line.column ≠ 0

/-- The line stands where lines of a play may stand below its header. -/
def IsPlayLine (line : Text) : Prop :=
  line = [] ∨ line.column = playKeyColumn ∨ taskKeyColumn ≤ line.column

section

variable {mode : RebuildMode} {source : List LineToken} {first last : Part} {row : Row}
  {rows : List Row}

theorem not_isBelowTop {line : Text} (notEmpty : line ≠ []) (column : line.column = 0) :
    isBelowTop line = false := by
  simp [isBelowTop, notEmpty, column]

theorem IsInner.not_isPlayKey {line : Text} (isInner : IsInner line) : ¬ IsPlayKey line := by
  intro isKey
  rcases isInner with rfl | deep
  · exact absurd isKey.1 (by decide)
  · rw [isKey.1] at deep
    exact absurd deep (by decide)

/-- Only the header of a play has a list marker at column 0. -/
theorem Follows.of_isTopItem (follows : Follows mode source first row last)
    (inPlaybook : first.InPlaybook) (isItem : IsTopItem row.text) :
    IsPlayHeader source row.text ∧ last = .play := by
  have column := isItem.column_eq
  cases follows with
  | outside noItem => exact (noItem isItem).elim
  | top _ _ _ noItem => exact (noItem isItem).elim
  | header _ isHeader => exact ⟨isHeader, rfl⟩
  | key _ isKey => exact absurd (column.symm.trans isKey.1) (by decide)
  | opener _ isKey => exact absurd (column.symm.trans isKey.1) (by decide)
  | item _ isTask => exact (isTask.not_isTopItem isItem).elim
  | inner _ isInner => exact (isInner.not_isTopItem isItem).elim
  | copy => exact (inPlaybook true rfl).elim

/-- A play goes on up to the next line at column 0. -/
theorem Follows.of_play (follows : Follows mode source first row last)
    (inPlay : first = .play ∨ first = .tasks) (below : isBelowTop row.text) :
    (last = .play ∨ last = .tasks) ∧ IsPlayLine row.text := by
  cases follows with
  | outside => rcases inPlay with same | same <;> cases same
  | top _ notEmpty column =>
      rw [not_isBelowTop notEmpty column] at below
      cases below
  | header _ isHeader =>
      obtain ⟨token, _, _, rfl⟩ := isHeader
      cases below
  | key _ isKey => exact ⟨.inl rfl, .inr (.inl isKey.1)⟩
  | opener _ isKey => exact ⟨.inr rfl, .inr (.inl isKey.1)⟩
  | item _ isItem =>
      refine ⟨?_, .inr (.inl isItem.1)⟩
      rcases inPlay with rfl | rfl
      · exact .inl rfl
      · exact .inr rfl
  | inner _ isInner => exact ⟨inPlay, isInner.imp_right .inr⟩
  | copy => rcases inPlay with same | same <;> cases same

theorem Path.of_play (path : Path mode source first rows last)
    (inPlay : first = .play ∨ first = .tasks) (below : ∀ row ∈ rows, isBelowTop row.text) :
    (last = .play ∨ last = .tasks) ∧ ∀ row ∈ rows, IsPlayLine row.text := by
  induction path with
  | nil => exact ⟨inPlay, nofun⟩
  | cons follows _ ih =>
      obtain ⟨stillInPlay, isLine⟩ := follows.of_play inPlay (below _ List.mem_cons_self)
      obtain ⟨lastInPlay, areLines⟩ :=
        ih stillInPlay fun other member => below other (List.mem_cons_of_mem _ member)
      refine ⟨lastInPlay, fun other member => ?_⟩
      rcases List.mem_cons.mp member with rfl | later
      · exact isLine
      · exact areLines other later

/-- **Tasks stand below the key of their list.** Where a play has led to a list of tasks, the last
key of the play has opened it. -/
theorem Path.section_of_tasks (path : Path mode source .play rows .tasks)
    (below : ∀ row ∈ rows, isBelowTop row.text) :
    ∃ earlier key later, rows.map Row.text = earlier ++ key :: later ∧ IsPlayKey key ∧
      IsSectionKey source key ∧ ∀ line ∈ later, ¬ IsPlayKey line := by
  induction rows using List.reverseRecOn with
  | nil => cases path
  | append_singleton rows row ih =>
      have belowRows : ∀ row ∈ rows, isBelowTop row.text :=
        fun other member => below other (List.mem_append_left _ member)
      obtain ⟨middle, before, after⟩ := path.split
      have inPlay := (before.of_play (.inl rfl) belowRows).1
      -- The last line opens the list, or the list has been open before it.
      have goesOn (same : middle = .tasks) (notKey : ¬ IsPlayKey row.text) : ∃ earlier key later,
          (rows ++ [row]).map Row.text = earlier ++ key :: later ∧ IsPlayKey key ∧
            IsSectionKey source key ∧ ∀ line ∈ later, ¬ IsPlayKey line := by
        subst same
        obtain ⟨earlier, key, later, lines, isKey, opens, noKey⟩ := ih before belowRows
        refine ⟨earlier, key, later ++ [row.text], ?_, isKey, opens, ?_⟩
        · rw [List.map_append, lines, List.append_assoc]
          rfl
        · intro line member
          rcases List.mem_append.mp member with above | isLast
          · exact noKey line above
          · rwa [List.mem_singleton.mp isLast]
      cases after with
      | cons follows rest =>
          cases rest
          generalize same : Part.tasks = final at follows
          cases follows with
          | outside | top | header | key | copy => cases same
          | opener _ isKey opens =>
              refine ⟨rows.map Row.text, _, [], ?_, isKey, opens, nofun⟩
              rw [List.map_append]
              rfl
          | item _ isItem =>
              refine goesOn ?_ fun isKey => isKey.2 isItem.2
              rcases inPlay with rfl | rfl
              · cases same
              · rfl
          | inner _ isInner => exact goesOn same.symm isInner.not_isPlayKey

end

end Outline

/-- **Plays of a full rebuild.** A line of a rebuilt playbook that starts with a list marker at column
0 is the header of a play. Up to the next line at column 0 every other line is empty, stands at column
2, or at column 4 or deeper; and above every list marker at column 2 the last line at column 2 that is
none is the key of a list of tasks, as it has opened one in the source or as it has been supplied. -/
theorem rebuild_plays_shaped (text : Text) :
    let source := tokens .canonical .playbook text
    ∃ lines, Text.pieces '\n' (rebuild .canonical .playbook text).text = lines ++ [[]] ∧
      ∀ above header below, lines = above ++ header :: below → IsTopItem header →
        let play := below.takeWhile isBelowTop
        IsPlayHeader source header ∧ (∀ line ∈ play, IsPlayLine line) ∧
        ∀ before item after, play = before ++ item :: after → IsTaskItem item →
          ∃ earlier key later, before = earlier ++ key :: later ∧ IsPlayKey key ∧
            IsSectionKey source key ∧ ∀ line ∈ later, ¬ IsPlayKey line := by
  intro source
  obtain ⟨marker, rows, last, lines, isMarker, path, _⟩ :=
    exists_outline (show IsRegular .canonical .playbook text from .inl ⟨rfl, rfl⟩)
  obtain rfl : marker = ["---".toList] := isMarker.resolve_left fun ⟨_, same⟩ => by cases same
  refine ⟨_, lines, ?_⟩
  intro above header below split isItem play
  cases above with
  | nil =>
      obtain ⟨rfl, _⟩ := List.cons.inj split
      exact absurd isItem (by decide)
  | cons top above =>
      obtain ⟨_, texts⟩ := List.cons.inj split
      obtain ⟨upper, lower, rfl, rfl, isLower⟩ := List.map_eq_append_iff.mp texts
      obtain ⟨row, rest, rfl, rfl, rfl⟩ := List.map_eq_cons_iff.mp isLower
      obtain ⟨middle, pathAbove, pathBelow⟩ := path.split
      have inPlaybook := pathAbove.inPlaybook nofun
      cases pathBelow with
      | cons follows pathBelow =>
          obtain ⟨isHeader, rfl⟩ := follows.of_isTopItem inPlaybook isItem
          have isPlay : play = (rest.takeWhile fun row => isBelowTop row.text).map Row.text :=
            List.takeWhile_map ..
          have below : ∀ row ∈ rest.takeWhile fun row => isBelowTop row.text,
              isBelowTop row.text :=
            fun row member => List.mem_takeWhile_imp (p := fun row : Row => isBelowTop row.text) member
          rw [← List.takeWhile_append_dropWhile (p := fun row => isBelowTop row.text) (l := rest)]
            at pathBelow
          obtain ⟨_, pathPlay, _⟩ := pathBelow.split
          rw [isPlay]
          generalize (rest.takeWhile fun row => isBelowTop row.text) = inner at below pathPlay
          refine ⟨isHeader, ?_, ?_⟩
          · intro line member
            obtain ⟨row, isRow, rfl⟩ := List.mem_map.mp member
            exact (pathPlay.of_play (.inl rfl) below).2 row isRow
          · intro before item after split isTask
            obtain ⟨upper, lower, rfl, rfl, isLower⟩ := List.map_eq_append_iff.mp split
            obtain ⟨row, rest, rfl, rfl, rfl⟩ := List.map_eq_cons_iff.mp isLower
            obtain ⟨middle, pathBefore, pathAfter⟩ := pathPlay.split
            have belowUpper : ∀ row ∈ upper, isBelowTop row.text :=
              fun other member => below other (List.mem_append_left _ member)
            have inPlay := (pathBefore.of_play (.inl rfl) belowUpper).1
            cases pathAfter with
            | cons follows _ =>
                have inTasks : middle = .tasks := by
                  rcases follows.of_isTaskItem isTask with ⟨holds, _⟩ | ⟨rfl, _⟩
                  · rcases holds with rfl | ⟨started, rfl⟩
                    · rfl
                    · rcases inPlay with same | same <;> cases same
                  · rcases inPlay with same | same <;> cases same
                subst inTasks
                exact pathBefore.section_of_tasks belowUpper

/-- The list of tasks that a play lacks is supplied above its first task. -/
theorem rebuild_plays_shaped_supplied :
    let text := "hosts: a\nbecome: yes\n- yum: x\n".toList
    let lines := ["---".toList, "- hosts: a".toList, "  become: yes".toList, "  tasks:".toList,
      "  - yum: x".toList]
    Text.pieces '\n' (rebuild .canonical .playbook text).text = lines ++ [[]] ∧
    ∃ earlier key later,
      ["  become: yes".toList, "  tasks:".toList] = earlier ++ key :: later ∧ IsPlayKey key ∧
      IsSectionKey (tokens .canonical .playbook text) key ∧ ∀ line ∈ later, ¬ IsPlayKey line := by
  intro text lines
  have written : Text.pieces '\n' (rebuild .canonical .playbook text).text = lines ++ [[]] := by
    decide +kernel
  refine ⟨written, ?_⟩
  obtain ⟨found, same, shaped⟩ := rebuild_plays_shaped text
  obtain rfl : found = lines := List.append_cancel_right (same.symm.trans written)
  exact (shaped ["---".toList] "- hosts: a".toList _ rfl (by decide)).2.2
    ["  become: yes".toList, "  tasks:".toList] "  - yum: x".toList [] (by decide) (by decide)

/-! ## Lists of tasks -/

namespace Outline

variable {mode : RebuildMode} {source : List LineToken} {started : Bool} {first last : Part}
  {row : Row} {rows : List Row}

/-- Every line of a list of tasks begins a task, belongs to one, or is a copy; the first one begins
a task. -/
theorem Follows.of_list (follows : Follows mode source (.list started) row last) :
    last = .list true ∧
      (row.copied = none ∧ (IsTaskItem row.text ∨ started ∧ IsInner row.text) ∨
        mode = .incremental ∧ ∃ token, row.copied = some token ∧ IsCopy token row.text) := by
  cases follows with
  | top inPlaybook => exact (inPlaybook started rfl).elim
  | header inPlaybook => exact (inPlaybook started rfl).elim
  | key inPlay => rcases inPlay with same | same <;> cases same
  | opener inPlay => rcases inPlay with same | same <;> cases same
  | item _ isItem => exact ⟨rfl, .inl ⟨rfl, .inl isItem⟩⟩
  | inner isStarted isInner =>
      cases started with
      | true => exact ⟨rfl, .inl ⟨rfl, .inr ⟨rfl, isInner⟩⟩⟩
      | false => exact (isStarted rfl).elim
  | copy incremental isCopy => exact ⟨rfl, .inr ⟨incremental, _, rfl, isCopy⟩⟩

theorem Path.of_list (path : Path mode source (.list started) rows last) :
    (∀ row ∈ rows, row.copied = none ∧ (IsTaskItem row.text ∨ IsInner row.text) ∨
      mode = .incremental ∧ ∃ token, row.copied = some token ∧ IsCopy token row.text) ∧
    (started = false → mode = .canonical → ∀ row, rows.head? = some row → IsTaskItem row.text) := by
  induction rows generalizing started with
  | nil => exact ⟨nofun, nofun⟩
  | cons row rows ih =>
      cases path with
      | cons follows rest =>
          obtain ⟨rfl, shape⟩ := follows.of_list
          refine ⟨fun other member => ?_, fun notStarted canonical other isFirst => ?_⟩
          · rcases List.mem_cons.mp member with rfl | later
            · exact shape.imp_left fun ⟨fresh, isLine⟩ => ⟨fresh, isLine.imp_right (·.2)⟩
            · exact (ih rest).1 other later
          · obtain rfl := Option.some.inj isFirst
            rcases shape with ⟨_, isItem | ⟨isStarted, _⟩⟩ | ⟨incremental, _⟩
            · exact isItem
            · cases notStarted.symm.trans isStarted
            · cases canonical.symm.trans incremental

end Outline

/-- **Tasks of a rebuilt list.** If no line of a list of tasks has hosts, it is rebuilt in full to a
document of which every line below the marker begins a task, is empty, or stands at column 4 or
deeper, and of which the first line begins a task. If source columns are kept, the same holds of all
lines but those that are copied from the source in their order, which are comments, document markers
and continuations. -/
theorem rebuild_tasks_shaped (text : Text)
    (noHosts : ∀ line ∈ Line.ofText text, ¬ (LineFacts.ofLine line).hasKey "hosts") :
    (∃ lines, Text.pieces '\n' (rebuild .canonical .taskList text).text =
        "---".toList :: lines ++ [[]] ∧
      (∀ line ∈ lines, IsTaskItem line ∨ IsInner line) ∧
      ∀ line, lines.head? = some line → IsTaskItem line) ∧
    ∃ (marker : List Text) (rows : List Row),
      Text.pieces '\n' (rebuild .incremental .taskList text).text =
        marker ++ rows.map Row.text ++ [[]] ∧
      (marker = [] ∨ marker = ["---".toList]) ∧
      (rows.filterMap Row.copied).Sublist (tokens .incremental .taskList text) ∧
      ∀ row ∈ rows, (row.copied = none → IsTaskItem row.text ∨ IsInner row.text) ∧
        ∀ token, row.copied = some token → IsCopy token row.text := by
  constructor
  · obtain ⟨marker, rows, last, lines, isMarker, path, _⟩ :=
      exists_outline (show IsRegular .canonical .taskList text from .inr ⟨rfl, noHosts⟩)
    obtain rfl : marker = ["---".toList] := isMarker.resolve_left fun ⟨_, same⟩ => by cases same
    obtain ⟨shape, begins⟩ := path.of_list
    refine ⟨rows.map Row.text, lines, ?_, ?_⟩
    · intro line member
      obtain ⟨row, isRow, rfl⟩ := List.mem_map.mp member
      rcases shape row isRow with ⟨_, isLine⟩ | ⟨incremental, _⟩
      · exact isLine
      · cases incremental
    · intro line isFirst
      rw [List.head?_map] at isFirst
      obtain ⟨row, isRow, rfl⟩ := Option.map_eq_some_iff.mp isFirst
      exact begins rfl rfl row isRow
  · obtain ⟨marker, rows, last, lines, isMarker, path, copied⟩ :=
      exists_outline (show IsRegular .incremental .taskList text from .inr ⟨rfl, noHosts⟩)
    obtain ⟨shape, _⟩ := path.of_list
    refine ⟨marker, rows, lines, isMarker.imp_left (·.1), copied, fun row isRow => ?_⟩
    rcases shape row isRow with ⟨fresh, isLine⟩ | ⟨_, token, isToken, isCopy⟩
    · refine ⟨fun _ => isLine, fun token isToken => ?_⟩
      cases fresh.symm.trans isToken
    · refine ⟨fun fresh => ?_, fun other isOther => ?_⟩
      · cases fresh.symm.trans isToken
      · obtain rfl := Option.some.inj (isToken.symm.trans isOther)
        exact isCopy

/-- A list of tasks that starts with a comment and a script and ends in a bare item. -/
theorem rebuild_tasks_shaped_script :
    let text := "# setup\ndnf install a\n  when: b\n-\n".toList
    (∀ line ∈ Line.ofText text, ¬ (LineFacts.ofLine line).hasKey "hosts") ∧
    ∃ lines, Text.pieces '\n' (rebuild .canonical .taskList text).text =
        "---".toList :: lines ++ [[]] ∧
      ∀ line, lines.head? = some line → IsTaskItem line := by
  intro text
  have noHosts : ∀ line ∈ Line.ofText text, ¬ (LineFacts.ofLine line).hasKey "hosts" := by
    decide +kernel
  obtain ⟨lines, written, _, begins⟩ := (rebuild_tasks_shaped text noHosts).1
  exact ⟨noHosts, lines, written, begins⟩

end PlaybookRepair
