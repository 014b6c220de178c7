import PlaybookRepair.Proofs.Rebuild.Layout
import PlaybookRepair.Proofs.Tracker.InStep.Push

/-!
# Runs in step

Two runs over lines of the same contents, those of the second by a margin further right, go in step
as long as no column of a task is cut at the left edge: every line has the same role in both, and
keeps the trackers in step (`run_inStep`).
-/

namespace PlaybookRepair.Rebuild

open Tracker (Keeps bringsMarker)
open Tracker.Record (Either)

/-- The trackers of the states are in step, and the line before was the same for both. -/
structure State.InStep (margin : Nat) (related : Tracker.Record → Tracker.Record → Prop)
    (first second : State) : Prop where
  tracker : Tracker.InStep margin related first.tracker second.tracker
  previousOpensBlock : second.previousOpensBlock = first.previousOpensBlock

variable {margin : Nat} {alike : LineToken → Line → Prop} {copied : LineToken → Prop}
  {resting gathering : Tracker.Record → Tracker.Record → Prop} {first second : State}

/-- The line is classified alike, as the token of another line. -/
theorem State.InStep.classify (inStep : State.InStep margin (Either resting gathering) first second)
    {line other : Line} (behind : line.Behind margin other) (itemHasHosts : Bool) :
    second.classify other itemHasHosts = (first.classify line itemHasHosts).moved other := by
  have role := inStep.tracker.role (.ofLine line) behind first.previousOpensBlock
    itemHasHosts
  simp only [State.classify, LineToken.classify, LineToken.moved, inStep.previousOpensBlock,
    LineFacts.ofLine_of_content behind.content, role]

/-- One more line keeps the states in step. -/
theorem State.InStep.step (keeps : Keeps margin alike copied resting gathering)
    (inStep : State.InStep margin (Either resting gathering) first second) {line other : Line}
    {itemHasHosts : Bool} (isAlike : alike (first.classify line itemHasHosts) other)
    (isCopied : first.tracker.flushShell.MayCopy (first.classify line itemHasHosts) →
      copied (first.classify line itemHasHosts))
    (uncut : first.tracker.startsTask (first.classify line itemHasHosts) →
      bringsMarker (first.classify line itemHasHosts) = false →
        margin = 0 ∨ indentStep ≤ (first.classify line itemHasHosts).indent) :
    State.InStep margin (Either resting gathering) (first.step line itemHasHosts)
      (second.step other itemHasHosts) := by
  have classified : (first.classify line itemHasHosts).Classified := ⟨line, _, rfl⟩
  have hasContent : (first.classify line itemHasHosts).role ≠ .blank →
      (first.classify line itemHasHosts).content ≠ [] :=
    mt classified.role_eq_blank_iff.mpr
  rw [State.step, State.step, inStep.classify (keeps.behind isAlike)]
  exact
    { tracker := inStep.tracker.push keeps isAlike hasContent isCopied uncut
      previousOpensBlock := by
        simp only [State.push, inStep.previousOpensBlock]
        rfl }

/-- **Runs in step.** Over lines that are alike, runs stay in step. -/
theorem run_inStep (keeps : Keeps margin alike copied resting gathering)
    (inStep : State.InStep margin (Either resting gathering) first second)
    {lines others : List Line} (flags : List Bool)
    (sameLines : List.Forall₂ (fun line other => ∀ token : LineToken, token.line = line →
      alike token other) lines others)
    (isCopied : ∀ done token later, tokensFrom first (lines.zip flags) = done ++ token :: later →
      (done.foldl Tracker.push first.tracker).flushShell.MayCopy token → copied token)
    (uncut : ∀ done token later, tokensFrom first (lines.zip flags) = done ++ token :: later →
      (done.foldl Tracker.push first.tracker).startsTask token → bringsMarker token = false →
        margin = 0 ∨ indentStep ≤ token.indent) :
    State.InStep margin (Either resting gathering) (run first (lines.zip flags))
      (run second (others.zip flags)) := by
  induction sameLines generalizing first second flags with
  | nil => exact inStep
  | @cons line other lines others isAlike _ ih =>
      cases flags with
      | nil => exact inStep
      | cons flag flags =>
          rw [List.zip_cons_cons, tokensFrom] at isCopied uncut
          have next := inStep.step keeps (isAlike (first.classify line flag) rfl)
            (isCopied [] _ _ rfl) (uncut [] _ _ rfl)
          exact ih next flags
            (fun done token later split => isCopied (_ :: done) token later (by
              rw [List.cons_append, ← split]
              rfl))
            (fun done token later split => uncut (_ :: done) token later (by
              rw [List.cons_append, ← split]
              rfl))

end PlaybookRepair.Rebuild
