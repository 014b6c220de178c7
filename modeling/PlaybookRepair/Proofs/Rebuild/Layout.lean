import PlaybookRepair.Proofs.Rebuild.Tokens
import PlaybookRepair.Proofs.Tracker.Layout

/-!
# A full rebuild ignores layout

The significant lines of a text are those that are neither blank nor comments. As long as none of
them belongs to a script or opens a block scalar, the canonical mode sees nothing but their
contents: the other lines leave the state of a run as it is (`run_significant`), and two runs over
lines of the same contents stay alike (`run_alike`). The main statement is `rebuild_ignores_layout`.
-/

namespace PlaybookRepair

open Catalog (ShellFamily isShellModule)
open InlineValue (isBlockIndicator)

/-- Whether a line is neither blank nor a comment. -/
def Line.isSignificant (line : Line) : Bool :=
  !line.content.isEmpty && line.content.head? ≠ some '#'

/-- The lines of a text that are neither blank nor comments. -/
def Line.significant (text : Text) : List Line := (Line.ofText text).filter Line.isSignificant

instance (facts : LineFacts) : Decidable facts.IsPlain :=
  decidable_of_iff
    (ShellFamily.ofContent? facts.content = none ∧ facts.key.any isShellModule = false ∧
      isBlockIndicator facts.value = false)
    ⟨fun ⟨noFragment, noShellKey, noIndicator⟩ => ⟨noFragment, noShellKey, noIndicator⟩,
      fun plain => ⟨plain.noFragment, plain.noShellKey, plain.noIndicator⟩⟩

/-- What a line shows on its own depends on its content. -/
theorem LineFacts.ofLine_of_content {first second : Line} (same : second.content = first.content) :
    LineFacts.ofLine second = { LineFacts.ofLine first with line := second } := by
  simp only [ofLine, same]

theorem LineFacts.IsPlain.of_content {first second : Line}
    (plain : (LineFacts.ofLine first).IsPlain) (same : second.content = first.content) :
    (LineFacts.ofLine second).IsPlain := by
  have noFragment : ShellFamily.ofContent? second.content = none := by
    rw [same]
    exact plain.noFragment
  rw [LineFacts.ofLine_of_content same]
  exact ⟨noFragment, plain.noShellKey, plain.noIndicator⟩

namespace Rebuild

/-! ## The search for `hosts` keys -/

/-- A blank line or a comment neither bounds the search for a `hosts` key nor ends it. -/
theorem hostsBelow_of_silent {line : Line} (silent : line.isSignificant = false) :
    boundsHosts (.ofLine line) = false ∧ (LineFacts.ofLine line).dashed = false ∧
      (LineFacts.ofLine line).hasKey "hosts" = false := by
  have content : line.content = [] ∨ ∃ rest, line.content = '#' :: rest := by
    by_cases empty : line.content = []
    · exact .inl empty
    · simp only [Line.isSignificant, Bool.and_eq_false_iff, Bool.not_eq_eq_eq_not, Bool.not_false,
        List.isEmpty_iff, empty, decide_eq_false_iff_not, not_not, false_or] at silent
      exact .inr (List.head?_eq_some_iff.mp silent)
  rcases content with empty | ⟨rest, sign⟩
  · simp [boundsHosts, LineFacts.content, LineFacts.ofLine, LineFacts.isDashed, LineFacts.hasKey,
      empty, KeyedLine.splitKeyValue?, KeyedLine.splitKey?]
  · have noKey : KeyedLine.splitKeyValue? ('#' :: rest) = none := by
      rw [KeyedLine.splitKeyValue?, KeyedLine.splitKey?]
      rfl
      all_goals simp
    simp [boundsHosts, LineFacts.content, LineFacts.ofLine, LineFacts.isDashed, LineFacts.hasKey,
      sign, noKey, List.isPrefixOf]

/-- The search for `hosts` keys passes over blank lines and comments. -/
theorem hostsBelow_significant (lines : List Line) :
    (hostsBelow ((lines.filter Line.isSignificant).map .ofLine)).2 =
        (hostsBelow (lines.map .ofLine)).2 ∧
      (lines.filter Line.isSignificant).zip
          (hostsBelow ((lines.filter Line.isSignificant).map .ofLine)).1 =
        (lines.zip (hostsBelow (lines.map .ofLine)).1).filter (·.1.isSignificant) := by
  induction lines with
  | nil => exact ⟨rfl, rfl⟩
  | cons line rest ih =>
      obtain ⟨below, owns⟩ := ih
      cases significant : line.isSignificant with
      | true =>
          simp only [List.filter_cons, significant, ↓reduceIte, List.map_cons, hostsBelow,
            List.zip_cons_cons, owns, below, and_self]
      | false =>
          obtain ⟨noBound, notDashed, noHosts⟩ := hostsBelow_of_silent significant
          simp only [List.filter_cons, significant, Bool.false_eq_true, ↓reduceIte, List.map_cons,
            hostsBelow, List.zip_cons_cons, owns, below, noBound, noHosts, Bool.and_false,
            Bool.false_or, and_self]

/-- The search for `hosts` keys sees the contents of the lines only. -/
theorem hostsBelow_of_content {first second : List Line}
    (same : second.map Line.content = first.map Line.content) :
    hostsBelow (second.map .ofLine) = hostsBelow (first.map .ofLine) := by
  induction first generalizing second with
  | nil =>
      rw [List.map_eq_nil_iff.mp same]
  | cons line rest ih =>
      obtain ⟨other, others, rfl, sameLine, sameRest⟩ := List.map_eq_cons_iff.mp same
      have facts := LineFacts.ofLine_of_content sameLine
      have bound : boundsHosts (.ofLine other) = boundsHosts (.ofLine line) := by
        rw [facts]
        simp only [boundsHosts, LineFacts.content, sameLine, LineFacts.hasKey]
        rfl
      rw [List.map_cons, List.map_cons, hostsBelow, hostsBelow, ih sameRest, bound, facts]
      rfl

/-! ## Runs -/

/-- The state is that of a run in the canonical mode without scripts and block scalars. -/
def State.Alike (first second : State) : Prop :=
  first.tracker.Alike second.tracker ∧ second.previousOpensBlock = first.previousOpensBlock

section

variable {first second : State} {line other : Line}

/-- One more line of the same content keeps the states alike. -/
theorem State.Alike.step (alike : first.Alike second) (plain : (LineFacts.ofLine line).IsPlain)
    (same : other.content = line.content) (itemHasHosts : Bool) :
    (first.step line itemHasHosts).Alike (second.step other itemHasHosts) := by
  have moved : second.classify other itemHasHosts =
      (first.classify line itemHasHosts).moved other := by
    have sameContent : other.content = (LineFacts.ofLine line).content := same
    have role := alike.1.role sameContent first.previousOpensBlock itemHasHosts
    simp only [State.classify, LineToken.classify, LineToken.moved, alike.2,
      LineFacts.ofLine_of_content same, role]
  have fits := Role.ofFacts_fits (.ofLine line)
    (first.tracker.surroundings first.previousOpensBlock itemHasHosts)
  have noFragment : ∀ family,
      (first.classify line itemHasHosts).role ≠ .shellFragment family := by
    intro family isFragment
    change Role.ofFacts _ _ = _ at isFragment
    rw [isFragment, Role.Fits, plain.noFragment] at fits
    cases fits
  rw [State.step, State.step, moved]
  refine ⟨alike.1.push plain noFragment same, ?_⟩
  simp only [State.push, alike.2]
  rfl

/-- A blank line or a comment leaves the state as it is. -/
theorem State.Alike.step_of_silent (alike : first.Alike first)
    (silent : line.isSignificant = false) (itemHasHosts : Bool) :
    first.step line itemHasHosts = first := by
  have role : (first.classify line itemHasHosts).role = .blank ∨
      (first.classify line itemHasHosts).role = .comment := by
    have classified : (first.classify line itemHasHosts).Classified := ⟨line, _, rfl⟩
    rw [classified.role_eq_blank_iff, classified.role_eq_comment_iff]
    change line.content = [] ∨ line.content.head? = some '#'
    by_cases empty : line.content = []
    · exact .inl empty
    · simpa [Line.isSignificant, empty] using silent
  have isSilent : ((first.classify line itemHasHosts).role = .blank ||
      (first.classify line itemHasHosts).role = .comment) = true := by
    simpa using role
  rw [State.step, State.push, alike.1.push_of_silent role, if_pos isSilent]

end

/-- Only the significant lines of a run count. -/
theorem run_significant {state : State} (alike : state.Alike state) {lines : List (Line × Bool)}
    (plain : ∀ entry ∈ lines, entry.1.isSignificant → (LineFacts.ofLine entry.1).IsPlain) :
    run state (lines.filter (·.1.isSignificant)) = run state lines := by
  induction lines generalizing state with
  | nil => rfl
  | cons entry rest ih =>
      have plainRest : ∀ later ∈ rest, later.1.isSignificant →
          (LineFacts.ofLine later.1).IsPlain :=
        fun later member => plain later (List.mem_cons_of_mem _ member)
      cases significant : entry.1.isSignificant with
      | true =>
          simp only [List.filter_cons, significant, ↓reduceIte]
          exact ih (alike.step (plain entry List.mem_cons_self significant) rfl entry.2) plainRest
      | false =>
          simp only [List.filter_cons, significant, Bool.false_eq_true, ↓reduceIte]
          rw [ih alike plainRest, run, run, List.foldl_cons, alike.step_of_silent significant]

/-- Runs over lines of the same contents stay alike. -/
theorem run_alike {first second : State} (alike : first.Alike second) {lines others : List Line}
    (plain : ∀ line ∈ lines, (LineFacts.ofLine line).IsPlain)
    (same : others.map Line.content = lines.map Line.content) (flags : List Bool) :
    (run first (lines.zip flags)).Alike (run second (others.zip flags)) := by
  induction lines generalizing first second others flags with
  | nil =>
      rw [List.map_eq_nil_iff.mp same]
      exact alike
  | cons line rest ih =>
      obtain ⟨other, others, rfl, sameLine, sameRest⟩ := List.map_eq_cons_iff.mp same
      cases flags with
      | nil => exact alike
      | cons flag flags =>
          exact ih (alike.step (plain line List.mem_cons_self) sameLine flag)
            (fun later member => plain later (List.mem_cons_of_mem _ member)) sameRest flags

/-- A rebuild in the canonical mode is a run over the significant lines. -/
theorem rebuild_eq_run_significant (kind : FileKind) {text : Text}
    (plain : ∀ line ∈ Line.significant text, (LineFacts.ofLine line).IsPlain) :
    rebuild .canonical kind text =
      (run (.start .canonical kind)
        ((Line.significant text).zip (ownsHosts (Line.significant text)))).tracker.finish := by
  have owns := (hostsBelow_significant (Line.ofText text)).2
  unfold Line.significant ownsHosts
  rw [owns, run_significant ⟨Tracker.alike_start kind, rfl⟩]
  · rfl
  · intro entry member significant
    exact plain entry.1 (List.mem_filter.mpr ⟨(List.of_mem_zip member).1, significant⟩)

end Rebuild

/-- Alike trackers have written the same text and found the same. -/
theorem Tracker.Alike.finish {first second : Tracker} (alike : first.Alike second) :
    second.finish.text = first.finish.text ∧
      second.finish.ambiguities.map Ambiguity.finding =
        first.finish.ambiguities.map Ambiguity.finding := by
  rw [Tracker.finish, Tracker.finish, finishedLines, finishedLines,
    flushShell_of_none alike.shell.1, flushShell_of_none alike.shell.2]
  exact ⟨by simp only [alike.mode, alike.out], alike.findings⟩

/-- **A full rebuild ignores layout.** Two texts whose lines have the same contents, blank lines and
comments apart, are rebuilt to the same text in the canonical mode, and the same is reported of them
but for the numbers of the lines, whatever kind of file they are; provided that no line belongs to a
script, no key names a module that runs one, and no value is the header of a block scalar. -/
theorem rebuild_ignores_layout (kind : FileKind) (first second : Text)
    (same : (Line.significant second).map Line.content =
      (Line.significant first).map Line.content)
    (plain : ∀ line ∈ Line.significant first, (LineFacts.ofLine line).IsPlain) :
    (rebuild .canonical kind second).text = (rebuild .canonical kind first).text ∧
      (rebuild .canonical kind second).ambiguities.map Ambiguity.finding =
        (rebuild .canonical kind first).ambiguities.map Ambiguity.finding := by
  have plainSecond : ∀ line ∈ Line.significant second, (LineFacts.ofLine line).IsPlain := by
    intro line member
    have content : line.content ∈ (Line.significant first).map Line.content :=
      same ▸ List.mem_map_of_mem member
    obtain ⟨twin, isTwin, sameContent⟩ := List.mem_map.mp content
    exact (plain twin isTwin).of_content sameContent.symm
  have flags : Rebuild.ownsHosts (Line.significant second) =
      Rebuild.ownsHosts (Line.significant first) := by
    rw [Rebuild.ownsHosts, Rebuild.ownsHosts, Rebuild.hostsBelow_of_content same]
  rw [Rebuild.rebuild_eq_run_significant kind plain,
    Rebuild.rebuild_eq_run_significant kind plainSecond, flags]
  exact (Rebuild.run_alike ⟨Tracker.alike_start kind, rfl⟩ plain same _).1.finish

/-- A play with a task is rebuilt the same from two layouts, one of them with tabs, a comment and a
blank line, and its misplaced keyword is reported from either. -/
theorem rebuild_ignores_layout_play :
    let first := "- hosts: all\n  when: x\n  name: a\n    copy:\n      src: x\n".toList
    let second := "\t- hosts: all\n# hosts: b\nwhen: x\n\n \tname: a\ncopy:\n src: x\n".toList
    (Line.significant second).map Line.content = (Line.significant first).map Line.content ∧
    (∀ line ∈ Line.significant first, (LineFacts.ofLine line).IsPlain) ∧
    (rebuild .canonical .playbook second).text = (rebuild .canonical .playbook first).text ∧
    (rebuild .canonical .playbook second).ambiguities.map Ambiguity.finding =
      (rebuild .canonical .playbook first).ambiguities.map Ambiguity.finding := by
  intro first second
  have same : (Line.significant second).map Line.content =
      (Line.significant first).map Line.content := by
    decide +kernel
  have plain : ∀ line ∈ Line.significant first, (LineFacts.ofLine line).IsPlain := by
    decide +kernel
  exact ⟨same, plain, rebuild_ignores_layout .playbook first second same plain⟩

end PlaybookRepair
