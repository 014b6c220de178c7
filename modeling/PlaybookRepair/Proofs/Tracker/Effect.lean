import PlaybookRepair.Proofs.Role
import PlaybookRepair.Proofs.Tracker.Adds

/-!
# What a line does outside a shell block

A line of the source that no open shell block absorbs has one of four effects on the tracker: it is
written, possibly after the key of a list of tasks that the source lacks; it is dropped, which only
the canonical mode does, and not without a report unless the line is a comment or a document marker;
it opens a shell block; or it joins the shell block that the open task remembers. The main
statement, `effect_pushOutsideShell`, says that there is no fifth effect.
-/

namespace PlaybookRepair

open Catalog (isShellModule)

/-- The text of the line with which a shell block is written: its key with the inline command as
long as nothing has been gathered, and with the header of the block scalar otherwise. -/
def ShellBlock.headerText (block : ShellBlock) : Text :=
  if !block.explicit && block.body.isEmpty then ShellBlock.keyLine block.key block.inline
  else (if block.explicit then block.key else ShellBlock.scriptKey block.key) ++ ": ".toList ++
    block.indicator

/-- The block has the key, the header and the inline command of another one. -/
structure ShellBlock.SameHeader (block opened : ShellBlock) : Prop where
  key : block.key = opened.key
  indicator : block.indicator = opened.indicator
  startIndent : block.startIndent = opened.startIndent
  explicit : block.explicit = opened.explicit
  inline : block.inline = opened.inline

namespace LineToken

/-- The line is the key of a module that runs a script. -/
def IsShellKey (token : LineToken) : Prop :=
  token.role = .moduleInvocation ∧ token.key.any isShellModule

/-- The line is a line of a script outside a block scalar. -/
def IsFragment (token : LineToken) : Prop := ∃ family, token.role = .shellFragment family

theorem IsFragment.role_ne {token : LineToken} (isFragment : token.IsFragment) :
    token.role ≠ .moduleInvocation := by
  obtain ⟨family, role⟩ := isFragment
  rw [role]
  nofun

/-- The forms in which a line of the source is written: as it is, as part of another key's value, or
as a key with its value, each at some column; after a list marker if it opens a play or a task; as
the header of the shell block that it opens; or copied with the margin that it has in the source. -/
inductive WrittenAs (token : LineToken) : Text → Prop
  | content (column : Nat) : WrittenAs token (List.replicate column ' ' ++ token.content)
  | nested (column : Nat) : WrittenAs token (List.replicate column ' ' ++ token.nestedText)
  | keyed (column : Nat) (hasKey : token.key.isSome) :
      WrittenAs token (List.replicate column ' ' ++ token.keyedText)
  | item (column : Nat) (hasKey : token.key.isSome) :
      WrittenAs token (List.replicate column ' ' ++ listItemText token.keyedText)
  | header (column : Nat) (block : ShellBlock) (isKey : token.IsShellKey)
      (same : block.SameHeader (.ofModule token)) :
      WrittenAs token (List.replicate column ' ' ++ block.headerText)
  | itemHeader (column : Nat) (block : ShellBlock) (isKey : token.IsShellKey)
      (same : block.SameHeader (.ofModule token)) :
      WrittenAs token (List.replicate column ' ' ++ listItemText block.headerText)
  | copied (role : token.role = .comment ∨ token.role = .listItem ∨ token.role = .continuation) :
      WrittenAs token (Text.trimEnd token.line.raw)

/-- The line may be left out: it is a comment or a document marker, or it is reported. -/
def Excused (token : LineToken) (reports : List Ambiguity) : Prop :=
  token.role = .comment ∨ token.role = .documentMarker ∨
    ∃ report ∈ reports, report.line = token.line.number

/-- A line that may be left out may still be left out when there are more reports. -/
theorem Excused.mono {token : LineToken} {reports more : List Ambiguity}
    (excused : token.Excused reports) (kept : reports <+: more) : token.Excused more :=
  excused.imp_right fun rest => rest.imp_right fun ⟨report, member, line⟩ =>
    ⟨report, kept.subset member, line⟩

theorem keyedText_ne_nil (token : LineToken) : token.keyedText ≠ [] := by
  unfold keyedText
  dsimp only
  split <;> simp

theorem nestedText_ne_nil {token : LineToken} (hasContent : token.content ≠ []) :
    token.nestedText ≠ [] := by
  unfold nestedText
  split
  · simp [listItemText]
  · split <;> simp [listItemText]
  · exact token.keyedText_ne_nil
  · exact hasContent

end LineToken

theorem indented_of_ne_nil (column : Nat) {text : Text} (notEmpty : text ≠ []) :
    indented column text = List.replicate column ' ' ++ text := by
  unfold indented
  rw [if_neg (by simpa using notEmpty)]

theorem indented_listItemText (column : Nat) (text : Text) :
    indented column (listItemText text) = List.replicate column ' ' ++ listItemText text :=
  indented_of_ne_nil column (List.cons_ne_nil _ _)

namespace Tracker

/-- The block is the one that opens on the line. -/
inductive Opens (token : LineToken) : ShellBlock → Prop
  | key (isKey : token.IsShellKey) : Opens token (.ofModule token)
  | fragment (isFragment : token.IsFragment) : Opens token (.ofFragment token)

/-- What a line with content does outside a shell block. -/
inductive Effect (before : Tracker) (token : LineToken) (after : Tracker) : Prop
  | wrote (supplied : List Text) (line : Text) (areSupplied : AreSupplied supplied)
      (written : token.WrittenAs line) (adds : Adds before after (supplied ++ [line]))
  | dropped (canonical : before.mode = .canonical)
      (excused : token.Excused after.ambiguities) (adds : Adds before after [])
  | opened (supplied : List Text) (ready : Tracker) (block : ShellBlock)
      (areSupplied : AreSupplied supplied) (adds : Adds before ready supplied)
      (opens : Opens token block)
      (isOpen : after = ready.withNesting { ready.nesting with shell := some block })
  | rejoined (ready : Tracker) (block : ShellBlock) (placement : Placement)
      (adds : Adds before ready []) (isFragment : token.IsFragment)
      (remembered : ready.openAction = some (.shell block placement))
      (isOpen : after =
        { ready with
          nesting :=
            { ready.nesting with openKey := none, shell := some (block.reopen.push token) }
          taskAction := none
          reopened := some placement })

variable {token : LineToken}

/-- What leaves no trace in the lines may come before. -/
theorem Effect.after_silent {first second third : Tracker} (silent : Adds first second [])
    (effect : Effect second token third) : Effect first token third := by
  cases effect with
  | wrote supplied line areSupplied written adds =>
      exact .wrote supplied line areSupplied written (silent.after_silent adds)
  | dropped canonical excused adds =>
      exact .dropped (silent.mode ▸ canonical) excused (silent.after_silent adds)
  | opened supplied ready block areSupplied adds opens isOpen =>
      exact .opened supplied ready block areSupplied (silent.after_silent adds) opens isOpen
  | rejoined ready block placement adds isFragment remembered isOpen =>
      exact .rejoined ready block placement (silent.after_silent adds) isFragment remembered isOpen

/-- Whatever a line does, what is written and reported is what some added lines give. -/
theorem Effect.exists_adds {before after : Tracker} (effect : Effect before token after) :
    ∃ ready lines, Adds before ready lines ∧ after.mode = ready.mode ∧
      after.ambiguities = ready.ambiguities ∧ after.out = ready.out := by
  cases effect with
  | wrote supplied line _ _ adds => exact ⟨after, _, adds, rfl, rfl, rfl⟩
  | dropped _ _ adds => exact ⟨after, _, adds, rfl, rfl, rfl⟩
  | opened _ ready _ _ adds _ isOpen =>
      rw [isOpen]
      exact ⟨ready, _, adds, rfl, rfl, rfl⟩
  | rejoined ready _ _ adds _ _ isOpen =>
      rw [isOpen]
      exact ⟨ready, _, adds, rfl, rfl, rfl⟩

/-- A line that is written without anything supplied for it. -/
theorem Effect.of_adds {before after : Tracker} {line : Text} (written : token.WrittenAs line)
    (adds : Adds before after [line]) : Effect before token after :=
  .wrote [] line (.inl rfl) written adds

/-! ## Keys -/

section Keyed

variable (tracker : Tracker) (hasKey : token.key.isSome)
include hasKey

theorem written_indented_keyedText (column : Nat) :
    token.WrittenAs (indented column token.keyedText) := by
  rw [indented_of_ne_nil column token.keyedText_ne_nil]
  exact .keyed column hasKey

theorem written_indented_item (column : Nat) :
    token.WrittenAs (indented column (listItemText token.keyedText)) := by
  rw [indented_listItemText]
  exact .item column hasKey

theorem effect_emitKey (column : Nat) : Effect tracker token (tracker.emitKey token column) :=
  .of_adds (written_indented_keyedText hasKey column) (tracker.adds_emitKey token column)

theorem effect_emitTaskKey : Effect tracker token (tracker.emitTaskKey token) := by
  rcases tracker.adds_emitTaskKey token with written | written
  · exact .of_adds (written_indented_keyedText hasKey _) written
  · exact .of_adds (written_indented_item hasKey _) written

/-- The key of a task, which is opened if need be. -/
theorem effect_ensureTask_emitTaskKey :
    Effect tracker token ((tracker.ensureTask token.indent).emitTaskKey token) := by
  obtain ⟨supplied, areSupplied, ready⟩ := tracker.adds_ensureTask token.indent
  rcases (tracker.ensureTask token.indent).adds_emitTaskKey token with written | written
  · exact .wrote supplied _ areSupplied (written_indented_keyedText hasKey _)
      (ready.trans written)
  · exact .wrote supplied _ areSupplied (written_indented_item hasKey _) (ready.trans written)

theorem effect_pushPlayHeader : Effect tracker token (tracker.pushPlayHeader token) := by
  have reset : Adds tracker
      { tracker with
        nesting := { tracker.nesting.reset with play := some token.indent }
        pendingDash := false } [] :=
    (tracker.adds_withNesting { tracker.nesting.reset with play := some token.indent } rfl
      (.inr rfl)).trans (adds_withPendingDash _ false)
  exact .of_adds (written_indented_item hasKey _) (reset.after_silent (adds_emitHeader _ _ _))

theorem effect_pushTaskHeader : Effect tracker token (tracker.pushTaskHeader token) := by
  unfold pushTaskHeader
  dsimp only
  generalize (if token.dashed then token.indent else token.indent - indentStep) = sourceIndent
  have closed := tracker.adds_withNesting
    { tracker.nesting with task := none, openKey := none } rfl (.inr rfl)
  obtain ⟨supplied, areSupplied, ready⟩ := adds_ensureTaskSection
    (tracker.withNesting { tracker.nesting with task := none, openKey := none }) sourceIndent
  have opened := ((closed.after_silent ready).trans (adds_openTask _ sourceIndent)).trans
    (adds_withPendingDash _ false)
  simp only [List.append_nil] at opened
  exact .wrote supplied _ areSupplied (written_indented_item hasKey _)
    (opened.trans (adds_emitHeader _ _ _))

theorem effect_pushMisplaced (reason : AmbiguityReason) :
    Effect tracker token (tracker.pushMisplaced token reason) := by
  unfold pushMisplaced
  dsimp only
  have noted := tracker.adds_note token reason
  split
  · exact .after_silent (noted.trans (adds_closeTasks _)) (effect_emitKey _ hasKey _)
  · split
    · exact .after_silent noted (effect_ensureTask_emitTaskKey _ hasKey)
    · exact .after_silent noted (effect_emitKey _ hasKey _)

theorem effect_pushPlayAttribute : Effect tracker token (tracker.pushPlayAttribute token) := by
  unfold pushPlayAttribute
  dsimp only
  split
  · exact effect_pushMisplaced _ hasKey _
  · split
    · have written := tracker.adds_closeTasks.after_silent
        (adds_emit _ playKeyColumn token.keyedText)
      exact .of_adds (written_indented_keyedText hasKey _)
        (written.trans (adds_openSection _ playKeyColumn token.indent))
    · exact .after_silent tracker.adds_closeTasks (effect_emitKey _ hasKey _)

theorem effect_pushTaskAttribute : Effect tracker token (tracker.pushTaskAttribute token) := by
  unfold pushTaskAttribute
  split
  · exact effect_emitTaskKey _ hasKey
  · exact effect_pushMisplaced _ hasKey _

theorem effect_pushKeyValue : Effect tracker token (tracker.pushKeyValue token) := by
  unfold pushKeyValue
  split
  · exact effect_emitTaskKey _ hasKey
  · split
    · exact effect_ensureTask_emitTaskKey _ hasKey
    · exact effect_emitKey _ hasKey _

end Keyed

/-! ## Shell blocks -/

theorem effect_openShell (tracker : Tracker) {block : ShellBlock} (opens : Opens token block) :
    Effect tracker token (tracker.openShell token block) := by
  unfold openShell
  dsimp only
  split
  · obtain ⟨supplied, areSupplied, ready⟩ := tracker.closeKey.adds_ensureTask token.indent
    exact .opened supplied _ block areSupplied (tracker.adds_closeKey.after_silent ready) opens rfl
  · exact .opened [] _ block (.inl rfl) (tracker.adds_closeKey.trans (adds_note _ _ _)) opens rfl

theorem effect_openFragment (tracker : Tracker) (isFragment : token.IsFragment) :
    Effect tracker token (tracker.openFragment token) := by
  have forgotten : Adds tracker { tracker with taskAction := none } [] :=
    tracker.adds_withTaskAction (by simp)
  unfold openFragment
  dsimp only
  split
  · next block placement action =>
      exact .rejoined tracker block placement (.refl tracker) isFragment action rfl
  · exact .after_silent ((forgotten.trans (adds_note _ _ _)).trans (adds_closeTask _))
      (effect_openShell _ (.fragment isFragment))
  · exact .after_silent forgotten (effect_openShell _ (.fragment isFragment))

theorem effect_pushModule (tracker : Tracker) (isModule : token.role = .moduleInvocation)
    (hasKey : token.key.isSome) : Effect tracker token (tracker.pushModule token) := by
  unfold pushModule
  split
  · next isShell => exact effect_openShell tracker (.key ⟨isModule, isShell⟩)
  · split
    · obtain ⟨supplied, areSupplied, ready⟩ := tracker.adds_ensureTask token.indent
      have action (state : Tracker) : Adds state { state with taskAction := some .other } [] :=
        state.adds_withTaskAction (by simp)
      rcases (tracker.ensureTask token.indent).adds_emitTaskKey token with written | written
      · exact .wrote supplied _ areSupplied (written_indented_keyedText hasKey _)
          (ready.trans (written.trans (action _)))
      · exact .wrote supplied _ areSupplied (written_indented_item hasKey _)
          (ready.trans (written.trans (action _)))
    · exact effect_pushMisplaced _ hasKey _

/-! ## Lines without a key of their own -/

theorem effect_copyLine (tracker : Tracker)
    (role : token.role = .comment ∨ token.role = .listItem ∨ token.role = .continuation)
    (excused : token.Excused tracker.ambiguities) :
    Effect tracker token (tracker.copyLine token) := by
  unfold copyLine
  cases mode : tracker.mode with
  | incremental => exact .of_adds (.copied role) (tracker.adds_emitLine _)
  | canonical => exact .dropped mode excused (.refl tracker)

theorem effect_pushDocumentMarker (tracker : Tracker) (isMarker : token.role = .documentMarker) :
    Effect tracker token (tracker.pushDocumentMarker token) := by
  have closed : Adds tracker
      { tracker with
        nesting := tracker.nesting.reset, lastKeyColumn := none, pendingDash := false } [] :=
    ((tracker.adds_withNesting tracker.nesting.reset rfl (.inr rfl)).trans
      (adds_withLastKeyColumn _ none)).trans (adds_withPendingDash _ false)
  unfold pushDocumentMarker
  dsimp only
  cases mode : tracker.mode with
  | incremental =>
      rw [mode] at closed
      exact .of_adds (.content 0) (closed.after_silent (adds_emitLine _ _))
  | canonical =>
      rw [mode] at closed
      exact .dropped mode (.inr (.inl isMarker)) closed

theorem written_indented_nestedText (hasContent : token.content ≠ []) (column : Nat) :
    token.WrittenAs (indented column token.nestedText) := by
  rw [indented_of_ne_nil column (LineToken.nestedText_ne_nil hasContent)]
  exact .nested column

theorem effect_pushContinuation (tracker : Tracker) (hasContent : token.content ≠ [])
    (role : token.role = .listItem ∨ token.role = .continuation)
    (excused : tracker.lastKeyColumn.isSome ∨
      ∃ report ∈ tracker.ambiguities, report.line = token.line.number) :
    Effect tracker token (tracker.pushContinuation token) := by
  unfold pushContinuation
  split
  · next column _ =>
      exact .of_adds (written_indented_nestedText hasContent _) (tracker.adds_emit _ _)
  · next absent =>
      rw [absent] at excused
      exact effect_copyLine tracker (.inr role) (.inr (.inr (excused.resolve_left (by simp))))

/-- A report of a line is among the reports. -/
theorem mem_note (tracker : Tracker) (token : LineToken) (reason : AmbiguityReason) :
    ∃ report ∈ (tracker.note token reason).ambiguities, report.line = token.line.number :=
  ⟨_, List.mem_append_right _ (List.mem_singleton.mpr rfl), rfl⟩

theorem effect_pushUnplaced (tracker : Tracker) (hasContent : token.content ≠ [])
    (isContinuation : token.role = .continuation) :
    Effect tracker token (tracker.pushUnplaced token) := by
  unfold pushUnplaced
  split
  · next present =>
      exact effect_pushContinuation tracker hasContent (.inr isContinuation) (.inl present)
  · exact .after_silent (tracker.adds_note token .nothingToContinue)
      (effect_pushContinuation _ hasContent (.inr isContinuation) (.inr (mem_note _ _ _)))

theorem effect_pushListItem (tracker : Tracker) (hasContent : token.content ≠ [])
    (isItem : token.role = .listItem) : Effect tracker token (tracker.pushListItem token) := by
  unfold pushListItem
  split
  · dsimp only
    have closed : Adds tracker
        { tracker with
          nesting := { tracker.nesting with task := none, openKey := none }
          pendingDash := false } [] :=
      (tracker.adds_withNesting { tracker.nesting with task := none, openKey := none } rfl
        (.inr rfl)).trans (adds_withPendingDash _ false)
    generalize ({ tracker with
      nesting := { tracker.nesting with task := none, openKey := none }
      pendingDash := false } : Tracker) = ready at closed ⊢
    obtain ⟨supplied, areSupplied, section_⟩ := ready.adds_ensureTaskSection token.indent
    have item := (closed.after_silent section_).trans
      (adds_emit _ taskColumn token.nestedText)
    have written := written_indented_nestedText hasContent taskColumn
    split
    · have opened := item.trans ((adds_openTask _ token.indent).trans
        (adds_afterKey _ token taskKeyColumn))
      simp only [List.append_nil] at opened
      exact .wrote supplied _ areSupplied written opened
    · have placed := item.trans (adds_withLastKeyColumn _ (some taskColumn))
      simp only [List.append_nil] at placed
      exact .wrote supplied _ areSupplied written placed
  · exact .after_silent (tracker.adds_note token .itemOutsideList)
      (effect_pushContinuation _ hasContent (.inl isItem) (.inr (mem_note _ _ _)))

/-! ## Placing a line -/

/-- A line that is placed by its role is written, dropped or gathered. -/
theorem effect_place (tracker : Tracker) (classified : token.Classified)
    (hasContent : token.content ≠ []) : Effect tracker token (tracker.place token) := by
  have fits := classified.fits
  unfold place
  cases role : token.role with
  | blank => exact (hasContent (classified.role_eq_blank_iff.mp role)).elim
  | comment => exact effect_copyLine tracker (.inl role) (.inl role)
  | documentMarker => exact effect_pushDocumentMarker tracker role
  | playHeader => rw [role] at fits; exact effect_pushPlayHeader tracker fits
  | taskHeader dashed => rw [role] at fits; exact effect_pushTaskHeader tracker fits
  | playAttribute => rw [role] at fits; exact effect_pushPlayAttribute tracker fits
  | taskAttribute => rw [role] at fits; exact effect_pushTaskAttribute tracker fits
  | moduleInvocation =>
      rw [role] at fits
      exact effect_pushModule tracker role (Option.isSome_of_any fits)
  | shellFragment family => exact effect_openFragment tracker ⟨family, role⟩
  | keyValue => rw [role] at fits; exact effect_pushKeyValue tracker fits
  | listItem => exact effect_pushListItem tracker hasContent role
  | continuation => exact effect_pushUnplaced tracker hasContent role

theorem effect_takeNested? {tracker taken : Tracker} (hasContent : token.content ≠ [])
    (takes : tracker.takeNested? token = some taken) : Effect tracker token taken := by
  unfold takeNested? at takes
  split at takes
  · cases takes
  · next key _ =>
      split at takes
      · cases takes
        dsimp only
        split
        · refine .of_adds ?_ ((tracker.adds_emit _ _).trans (adds_withNesting _ _ rfl (.inl rfl)))
          rw [indented_of_ne_nil _ hasContent]
          exact .content _
        · exact .of_adds (written_indented_nestedText hasContent _)
            ((tracker.adds_emit _ _).trans (adds_withNesting _ _ rfl (.inl rfl)))
      · cases takes

/-- **The effects of a line.** A line with content that no shell block absorbs is written, dropped
with an excuse, or gathered into a shell block that it opens or joins. -/
theorem effect_pushOutsideShell (tracker : Tracker) (classified : token.Classified)
    (hasContent : token.content ≠ []) :
    Effect tracker token (tracker.pushOutsideShell token) := by
  have notBlank : token.role ≠ .blank := mt classified.role_eq_blank_iff.mp hasContent
  unfold pushOutsideShell
  rw [if_neg notBlank]
  split
  · next taken takes => exact effect_takeNested? hasContent takes
  · dsimp only
    refine .after_silent ((tracker.adds_leaveKey token).after_silent ?_)
      (effect_place _ classified hasContent)
    split
    · exact adds_closeByDedent _ token
    · exact .refl _

/-- A blank line outside a shell block adds at most an empty line. -/
theorem adds_pushBlank (tracker : Tracker) :
    Adds tracker tracker.pushBlank [] ∨ Adds tracker tracker.pushBlank [[]] := by
  unfold pushBlank
  dsimp only
  split
  · exact .inl (.refl tracker)
  · split
    · exact .inr (tracker.adds_emitLine [])
    · exact .inl (.refl tracker)

end Tracker

end PlaybookRepair
