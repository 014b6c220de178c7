import PlaybookRepair.Proofs.Tracker.Push

/-!
# What is reported of a line

A line is reported when it is placed, and then only the line itself. How often that may happen is
told by its role (`Role.mostReports`): blank lines and comments are never reported, and only a line
of a script may be reported twice, once because it comes after the action of its task and once
because no task can be open for it. Writing, absorbing and leaving report nothing. The main
statement is `reports_push`.
-/

namespace PlaybookRepair

/-- A report of the line. -/
def Line.report (line : Line) (reason : AmbiguityReason) : Ambiguity :=
  ⟨line.number, line.content, reason⟩

/-- The later reports are the earlier ones and some of the line, up to a number. -/
def Reports (line : Line) (limit : Nat) (earlier later : List Ambiguity) : Prop :=
  ∃ reasons : List AmbiguityReason,
    reasons.length ≤ limit ∧ later = earlier ++ reasons.map line.report

/-- How often a line of this role may be reported. -/
def Role.mostReports : Role → Nat
  | blank | comment | documentMarker | playHeader | taskHeader _ | keyValue => 0
  | playAttribute | taskAttribute | moduleInvocation | listItem | continuation => 1
  | shellFragment _ => 2

section

variable {line : Line} {limit more : Nat} {earlier later last : List Ambiguity}

theorem Reports.of_eq (same : later = earlier) : Reports line limit earlier later :=
  ⟨[], Nat.zero_le limit, by rw [same, List.map_nil, List.append_nil]⟩

theorem Reports.mono (reports : Reports line limit earlier later) (within : limit ≤ more) :
    Reports line more earlier later := by
  obtain ⟨reasons, few, same⟩ := reports
  exact ⟨reasons, Nat.le_trans few within, same⟩

theorem Reports.trans (first : Reports line limit earlier later)
    (second : Reports line more later last) : Reports line (limit + more) earlier last := by
  obtain ⟨reasons, within, rfl⟩ := first
  obtain ⟨others, withinMore, rfl⟩ := second
  refine ⟨reasons ++ others, ?_, ?_⟩
  · rw [List.length_append]
    exact Nat.add_le_add within withinMore
  · rw [List.map_append, List.append_assoc]

end

namespace Tracker

variable (tracker : Tracker) (token : LineToken)

theorem reports_note (reason : AmbiguityReason) :
    Reports token.line 1 tracker.ambiguities (tracker.note token reason).ambiguities :=
  ⟨[reason], Nat.le_refl 1, rfl⟩

/-! ## Steps that report nothing -/

@[simp] theorem ambiguities_emitTaskKey :
    (tracker.emitTaskKey token).ambiguities = tracker.ambiguities := by
  unfold emitTaskKey emitTaskLine
  split <;> rfl

@[simp] theorem ambiguities_ensureTaskSection (sourceIndent : Nat) :
    (tracker.ensureTaskSection sourceIndent).ambiguities = tracker.ambiguities := by
  unfold ensureTaskSection
  split <;> rfl

@[simp] theorem ambiguities_ensureTask (keyIndent : Nat) :
    (tracker.ensureTask keyIndent).ambiguities = tracker.ambiguities := by
  unfold ensureTask
  split
  · rfl
  · exact tracker.ambiguities_ensureTaskSection (keyIndent - indentStep)

@[simp] theorem ambiguities_copyLine :
    (tracker.copyLine token).ambiguities = tracker.ambiguities := by
  unfold copyLine
  split <;> rfl

@[simp] theorem ambiguities_pushContinuation :
    (tracker.pushContinuation token).ambiguities = tracker.ambiguities := by
  unfold pushContinuation
  split
  · rfl
  · exact tracker.ambiguities_copyLine token

theorem ambiguities_pushDocumentMarker :
    (tracker.pushDocumentMarker token).ambiguities = tracker.ambiguities := by
  unfold pushDocumentMarker
  dsimp only
  split <;> rfl

theorem ambiguities_pushTaskHeader :
    (tracker.pushTaskHeader token).ambiguities = tracker.ambiguities :=
  ambiguities_ensureTaskSection _ _

theorem ambiguities_pushKeyValue :
    (tracker.pushKeyValue token).ambiguities = tracker.ambiguities := by
  unfold pushKeyValue
  split
  · exact tracker.ambiguities_emitTaskKey token
  · split
    · rw [ambiguities_emitTaskKey, ambiguities_ensureTask]
    · rfl

theorem ambiguities_pushBlank : tracker.pushBlank.ambiguities = tracker.ambiguities := by
  unfold pushBlank
  dsimp only
  split
  · rfl
  · split <;> rfl

theorem ambiguities_leave : (tracker.leave token).ambiguities = tracker.ambiguities := by
  have leftKey : (tracker.leaveKey token).ambiguities = tracker.ambiguities := by
    unfold leaveKey
    split <;> rfl
  rw [← leftKey]
  unfold leave
  dsimp only
  split
  · unfold closeByDedent
    split
    · rfl
    · dsimp only
      split <;> split <;> rfl
  · rfl

variable {tracker token} in
theorem ambiguities_takeNested? {taken : Tracker} (takes : tracker.takeNested? token = some taken) :
    taken.ambiguities = tracker.ambiguities := by
  unfold takeNested? at takes
  split at takes
  · cases takes
  · split at takes
    · cases takes
      rfl
    · cases takes

/-! ## Lines by their role -/

/-- A misplaced line is reported once. -/
theorem ambiguities_pushMisplaced (reason : AmbiguityReason) :
    (tracker.pushMisplaced token reason).ambiguities =
      (tracker.note token reason).ambiguities := by
  unfold pushMisplaced
  dsimp only
  split
  · rfl
  · split
    · rw [ambiguities_emitTaskKey, ambiguities_ensureTask]
    · rfl

theorem reports_pushMisplaced (reason : AmbiguityReason) :
    Reports token.line 1 tracker.ambiguities
      (tracker.pushMisplaced token reason).ambiguities := by
  rw [ambiguities_pushMisplaced]
  exact tracker.reports_note token reason

theorem reports_pushPlayAttribute :
    Reports token.line 1 tracker.ambiguities (tracker.pushPlayAttribute token).ambiguities := by
  unfold pushPlayAttribute
  split
  · exact tracker.reports_pushMisplaced token .playAttributeOutsidePlay
  · dsimp only
    split <;> exact .of_eq rfl

theorem reports_pushTaskAttribute :
    Reports token.line 1 tracker.ambiguities (tracker.pushTaskAttribute token).ambiguities := by
  unfold pushTaskAttribute
  split
  · exact .of_eq (tracker.ambiguities_emitTaskKey token)
  · exact tracker.reports_pushMisplaced token .taskAttributeOutsideTask

/-- A block that opens outside of a task is reported. -/
theorem reports_openShell (block : ShellBlock) :
    Reports token.line 1 tracker.ambiguities (tracker.openShell token block).ambiguities := by
  unfold openShell
  dsimp only
  split
  · exact .of_eq (tracker.closeKey.ambiguities_ensureTask token.indent)
  · exact tracker.closeKey.reports_note token .shellOutsideTask

theorem reports_pushModule :
    Reports token.line 1 tracker.ambiguities (tracker.pushModule token).ambiguities := by
  unfold pushModule
  split
  · exact tracker.reports_openShell token (.ofModule token)
  · split
    · apply Reports.of_eq
      rw [ambiguities_emitTaskKey, ambiguities_ensureTask]
    · exact tracker.reports_pushMisplaced token .moduleOutsideTask

/-- A line of a script after another action is reported, and again if its block opens outside of a
task. -/
theorem reports_openFragment :
    Reports token.line 2 tracker.ambiguities (tracker.openFragment token).ambiguities := by
  unfold openFragment
  dsimp only
  split
  · exact .of_eq rfl
  · have noted := reports_note { tracker with taskAction := none } token .shellAfterAction
    have opened := reports_openShell
      (({ tracker with taskAction := none } : Tracker).note token .shellAfterAction).closeTask token
      (.ofFragment token)
    exact noted.trans opened
  · have opened := reports_openShell { tracker with taskAction := none } token (.ofFragment token)
    exact opened.mono (by decide)

theorem reports_pushUnplaced :
    Reports token.line 1 tracker.ambiguities (tracker.pushUnplaced token).ambiguities := by
  unfold pushUnplaced
  split
  · exact .of_eq (tracker.ambiguities_pushContinuation token)
  · rw [ambiguities_pushContinuation]
    exact tracker.reports_note token .nothingToContinue

theorem reports_pushListItem :
    Reports token.line 1 tracker.ambiguities (tracker.pushListItem token).ambiguities := by
  unfold pushListItem
  split
  · dsimp only
    split <;> exact .of_eq (ambiguities_ensureTaskSection _ token.indent)
  · rw [ambiguities_pushContinuation]
    exact tracker.reports_note token .itemOutsideList

/-- A line that is placed is reported as often as its role admits. -/
theorem reports_place :
    Reports token.line token.role.mostReports tracker.ambiguities
      (tracker.place token).ambiguities := by
  unfold place
  cases token.role with
  | blank => exact .of_eq rfl
  | comment => exact .of_eq (tracker.ambiguities_copyLine token)
  | documentMarker => exact .of_eq (tracker.ambiguities_pushDocumentMarker token)
  | playHeader => exact .of_eq rfl
  | taskHeader => exact .of_eq (tracker.ambiguities_pushTaskHeader token)
  | playAttribute => exact tracker.reports_pushPlayAttribute token
  | taskAttribute => exact tracker.reports_pushTaskAttribute token
  | moduleInvocation => exact tracker.reports_pushModule token
  | shellFragment => exact tracker.reports_openFragment token
  | keyValue => exact .of_eq (tracker.ambiguities_pushKeyValue token)
  | listItem => exact tracker.reports_pushListItem token
  | continuation => exact tracker.reports_pushUnplaced token

/-- **What is reported of a line.** One more line adds reports of itself, as many as its role
admits. -/
theorem reports_push :
    Reports token.line token.role.mostReports tracker.ambiguities
      (tracker.push token).ambiguities := by
  cases absorbs : tracker.extendShell? token with
  | some extended =>
      obtain ⟨block, absorbed, _, _, rfl⟩ := extendShell?_eq_some absorbs
      rw [push_of_absorbed absorbs]
      exact .of_eq rfl
  | none =>
      obtain ⟨_, _, flushed⟩ := tracker.flushShell_state
      rw [push_of_outside absorbs, ← flushed]
      by_cases isBlank : token.role = .blank
      · rw [pushOutsideShell, if_pos isBlank]
        exact .of_eq tracker.flushShell.ambiguities_pushBlank
      · cases takes : tracker.flushShell.takeNested? token with
        | some taken =>
            rw [pushOutsideShell_of_taken isBlank takes]
            exact .of_eq (ambiguities_takeNested? takes)
        | none =>
            rw [pushOutsideShell_of_apart isBlank takes,
              ← tracker.flushShell.ambiguities_leave token]
            exact reports_place _ token

end Tracker

end PlaybookRepair
