import Mathlib.Tactic.Tauto
import PlaybookRepair.Proofs.Rebuild.Tokens
import PlaybookRepair.Proofs.Tracker.TaskSection

/-!
# Supplied keys of task lists

A play whose source lacks the key of its list of tasks gets one. It gets another one for every line
that needs a list of tasks after the list has been left (`rebuild_supplies_iff`): the tracker knows
whether a list is open, not whether the play has had the key. A keyword of the play between two
tasks is enough, or a task to the left of the list (`rebuild_supplies_twice`), and the mapping of
the play then has a duplicate key.
-/

namespace PlaybookRepair

namespace Tracker

variable {tracker : Tracker} {first : LineToken} {rest : List LineToken}

/-- No line of a run ends the open play. -/
def StaysInPlay (tracker : Tracker) (lines : List LineToken) : Prop :=
  ∀ done line later, lines = done ++ line :: later →
    (done.foldl push tracker).endsPlay line = false

/-- No line of a run opens a list of tasks. -/
def NeverOpens (tracker : Tracker) (lines : List LineToken) : Prop :=
  ∀ done line later, lines = done ++ line :: later →
    (done.foldl push tracker).opensList line = false

/-- A line of a run leaves the list of tasks, and no line behind it opens one. -/
def LeavesForGood (tracker : Tracker) (lines : List LineToken) : Prop :=
  ∃ done line later, lines = done ++ line :: later ∧
    (done.foldl push tracker).leavesList line ∧
    ((done.foldl push tracker).push line).NeverOpens later

/-- What holds at every line of a run holds at its first one and at those of the rest. -/
theorem forall_split_cons (property : Tracker → LineToken → Prop) :
    (∀ done line later, first :: rest = done ++ line :: later →
        property (done.foldl push tracker) line) ↔
      property tracker first ∧ ∀ done line later, rest = done ++ line :: later →
        property (done.foldl push (tracker.push first)) line := by
  constructor
  · intro all
    refine ⟨all [] first rest rfl, ?_⟩
    rintro done line later rfl
    exact all (first :: done) line later rfl
  · rintro ⟨isFirst, all⟩ done line later split
    cases done with
    | nil =>
        obtain ⟨rfl, _⟩ := List.cons.inj split
        exact isFirst
    | cons other done =>
        obtain ⟨rfl, isRest⟩ := List.cons.inj split
        exact all done line later isRest

theorem staysInPlay_cons :
    tracker.StaysInPlay (first :: rest) ↔
      tracker.endsPlay first = false ∧ (tracker.push first).StaysInPlay rest :=
  forall_split_cons fun tracker line => tracker.endsPlay line = false

/-- Neither the lines of a run nor one behind them end the play. -/
theorem StaysInPlay.of_concat {lines : List LineToken} {line : LineToken}
    (stays : tracker.StaysInPlay (lines ++ [line])) :
    tracker.StaysInPlay lines ∧ (lines.foldl push tracker).endsPlay line = false := by
  refine ⟨?_, stays lines line [] rfl⟩
  rintro done earlier later rfl
  exact stays done earlier (later ++ [line]) (by simp)

theorem neverOpens_cons :
    tracker.NeverOpens (first :: rest) ↔
      tracker.opensList first = false ∧ (tracker.push first).NeverOpens rest :=
  forall_split_cons fun tracker line => tracker.opensList line = false

theorem leavesForGood_cons :
    tracker.LeavesForGood (first :: rest) ↔
      tracker.leavesList first ∧ (tracker.push first).NeverOpens rest ∨
        (tracker.push first).LeavesForGood rest := by
  constructor
  · rintro ⟨done, line, later, split, leaves, never⟩
    cases done with
    | nil =>
        obtain ⟨rfl, rfl⟩ := List.cons.inj split
        exact .inl ⟨leaves, never⟩
    | cons other done =>
        obtain ⟨rfl, isRest⟩ := List.cons.inj split
        exact .inr ⟨done, line, later, isRest, leaves, never⟩
  · rintro (⟨leaves, never⟩ | ⟨done, line, later, rfl, leaves, never⟩)
    · exact ⟨[], first, rest, rfl, leaves, never⟩
    · exact ⟨first :: done, line, later, rfl, leaves, never⟩

theorem not_leavesForGood_nil : ¬ tracker.LeavesForGood [] := by
  rintro ⟨done, line, later, split, _⟩
  cases done <;> cases split

theorem neverOpens_nil : tracker.NeverOpens [] := by
  intro done line later split
  cases done <;> cases split

/-- Within a play there is no list of tasks after a line that leaves it, nor after one that does not
open it where there has been none. -/
theorem taskSection_push_eq_none_iff (inPlay : tracker.nesting.play.isSome)
    (stays : tracker.endsPlay first = false) :
    (tracker.push first).nesting.taskSection = none ↔
      tracker.leavesList first ∨
        tracker.nesting.taskSection = none ∧ tracker.opensList first = false := by
  have taskSection := (taskSection_push inPlay stays).2
  have apart : tracker.opensList first → tracker.leavesList first = false := by
    intro opens
    simp [leavesList, opens]
  rw [← Option.isNone_iff_eq_none, ← Option.isNone_iff_eq_none, ← Option.not_isSome,
    ← Option.not_isSome, taskSection]
  cases opens : tracker.opensList first with
  | true => simp [apart opens]
  | false => cases leaves : tracker.leavesList first <;> simp

/-- **The list of tasks after a run.** Within a play there is no list of tasks after lines of which
one leaves the list for good, nor after lines that do not open one where there has been none. -/
theorem taskSection_run (inPlay : tracker.nesting.play.isSome) {lines : List LineToken}
    (stays : tracker.StaysInPlay lines) :
    (lines.foldl push tracker).nesting.play.isSome ∧
      ((lines.foldl push tracker).nesting.taskSection = none ↔
        tracker.LeavesForGood lines ∨
          tracker.nesting.taskSection = none ∧ tracker.NeverOpens lines) := by
  induction lines generalizing tracker with
  | nil =>
      refine ⟨inPlay, ?_⟩
      simp [not_leavesForGood_nil, neverOpens_nil]
  | cons first rest ih =>
      obtain ⟨stays, staysRest⟩ := staysInPlay_cons.mp stays
      obtain ⟨stillPlay, closed⟩ := ih (taskSection_push inPlay stays).1 staysRest
      refine ⟨stillPlay, ?_⟩
      rw [List.foldl_cons, closed, leavesForGood_cons, neverOpens_cons,
        taskSection_push_eq_none_iff inPlay stays]
      tauto

end Tracker

open Rebuild
open Tracker (suppliedTasks)

/-- **Supplied keys of task lists.** When a key `tasks` has been written for a play, another one is
supplied before a line of that play exactly if the line is a task or an item of a list of tasks, and
leaves the list by its column, or a line since the key, its own included, leaves the list and none
behind that opens one. Apart from the supplied key a line has at most one line written. -/
theorem rebuild_supplies_iff (mode : RebuildMode) (kind : FileKind) (text : Text) :
    ∀ before opener rest token later,
      tokens mode kind text = before ++ opener :: (rest ++ token :: later) →
      (trackerAfter mode kind before).writesTasks opener →
      ((trackerAfter mode kind before).push opener).StaysInPlay (rest ++ [token]) →
      (∃ line lines, suppliedTasks <+: line ∧
        ((trackerAfter mode kind before).push opener).out =
          (trackerAfter mode kind before).writtenBefore opener ++ line :: lines) ∧
      (∃ lines : List Text, lines.length ≤ 1 ∧
        ((trackerAfter mode kind (before ++ opener :: rest)).push token).out =
          (trackerAfter mode kind (before ++ opener :: rest)).writtenBefore token ++
            (if (trackerAfter mode kind (before ++ opener :: rest)).suppliesTasks token then
              [suppliedTasks] else []) ++ lines) ∧
      ((trackerAfter mode kind (before ++ opener :: rest)).suppliesTasks token ↔
        (trackerAfter mode kind (before ++ opener :: rest)).placesTask token ∧
          ((trackerAfter mode kind (before ++ opener :: rest)).leavesByColumn token ∨
            (trackerAfter mode kind before).LeavesForGood (opener :: rest))) := by
  intro before opener rest token later _ writes stays
  obtain ⟨staysRest, staysHere⟩ := stays.of_concat
  obtain ⟨inPlay, isIn, changes⟩ := Tracker.opensList_or_leavesList_of_writesTasks writes
  have closed := (Tracker.taskSection_run inPlay (Tracker.staysInPlay_cons.mpr ⟨isIn, staysRest⟩)).2
  have ran : trackerAfter mode kind (before ++ opener :: rest) =
      (opener :: rest).foldl Tracker.push (trackerAfter mode kind before) :=
    List.foldl_append
  have left : (trackerAfter mode kind (before ++ opener :: rest)).nesting.taskSection = none ↔
      (trackerAfter mode kind before).LeavesForGood (opener :: rest) := by
    rw [ran, closed]
    refine ⟨fun ended => ended.elim id ?_, .inl⟩
    rintro ⟨_, never⟩
    -- The line with the key changes whether there is a list of tasks.
    obtain ⟨noOpen, neverLater⟩ := Tracker.neverOpens_cons.mp never
    have leaves := changes.resolve_left (by simp [noOpen])
    exact Tracker.leavesForGood_cons.mpr (.inl ⟨leaves, neverLater⟩)
  refine ⟨Tracker.out_push_of_writesTasks writes, Tracker.out_push ?_, ?_⟩
  · rw [ran]
    exact staysHere
  · rw [Tracker.suppliesTasks_iff, left]

/-- The key of a list of handlers opens a list of tasks again, so nothing is supplied behind it. -/
theorem rebuild_supplies_handlers :
    let text := "- hosts: all\n  tasks:\n  - ping:\n  handlers:\n  - name: b\n".toList
    ∃ before opener rest token later,
      tokens .incremental .playbook text = before ++ opener :: (rest ++ token :: later) ∧
      (trackerAfter .incremental .playbook before).writesTasks opener ∧
      ((trackerAfter .incremental .playbook before).push opener).StaysInPlay (rest ++ [token]) ∧
      (trackerAfter .incremental .playbook (before ++ opener :: rest)).placesTask token ∧
      ((trackerAfter .incremental .playbook (before ++ opener :: rest)).suppliesTasks token ↔
        (trackerAfter .incremental .playbook (before ++ opener :: rest)).placesTask token ∧
          ((trackerAfter .incremental .playbook (before ++ opener :: rest)).leavesByColumn token ∨
            (trackerAfter .incremental .playbook before).LeavesForGood (opener :: rest))) := by
  intro text
  let lines := tokens .incremental .playbook text
  let opener := lines.get ⟨1, by decide +kernel⟩
  let token := lines.get ⟨4, by decide +kernel⟩
  have split : lines = lines.take 1 ++ opener :: ((lines.drop 2).take 2 ++ token :: []) := by
    decide +kernel
  have writes : (trackerAfter .incremental .playbook (lines.take 1)).writesTasks opener := by
    decide +kernel
  have stays : ((trackerAfter .incremental .playbook (lines.take 1)).push opener).StaysInPlay
      ((lines.drop 2).take 2 ++ [token]) :=
    forall_split (by decide +kernel)
  have places : (trackerAfter .incremental .playbook
      (lines.take 1 ++ opener :: (lines.drop 2).take 2)).placesTask token := by
    decide +kernel
  exact ⟨_, _, _, _, _, split, writes, stays, places,
    (rebuild_supplies_iff _ _ _ _ _ _ _ _ split writes stays).2.2⟩

/-- A module to the left of the list of tasks has the key `tasks` supplied a second time. -/
theorem rebuild_supplies_twice :
    let text := "- hosts: all\n  tasks:\n  - ping:\ndebug:\n".toList
    Text.pieces '\n' (rebuild .incremental .playbook text).text =
      ["---", "- hosts: all", "  tasks:", "  - ping:", "  tasks:", "  - debug:", ""].map
        String.toList ∧
    ∃ before opener rest token later,
      tokens .incremental .playbook text = before ++ opener :: (rest ++ token :: later) ∧
      (trackerAfter .incremental .playbook before).writesTasks opener ∧
      ((trackerAfter .incremental .playbook before).push opener).StaysInPlay (rest ++ [token]) ∧
      (trackerAfter .incremental .playbook (before ++ opener :: rest)).suppliesTasks token := by
  intro text
  let lines := tokens .incremental .playbook text
  refine ⟨?_, lines.take 1, lines.get ⟨1, by decide +kernel⟩, (lines.drop 2).take 1,
    lines.get ⟨3, by decide +kernel⟩, [], ?_, ?_, forall_split ?_, ?_⟩ <;> decide +kernel

end PlaybookRepair
