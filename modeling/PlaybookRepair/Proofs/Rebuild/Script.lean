import PlaybookRepair.Proofs.Rebuild.Tokens

/-!
# Scripts along a run

The script of a shell block is followed through a run by what happens to each line: the line is
absorbed by the open block, joins a block that had been written, opens a block, or leaves the script
as it is. A shell block only keeps the contents of its lines, so the lines themselves are recorded
beside the tracker.
-/

namespace PlaybookRepair

/-- A script: the line on which its block has opened, and the lines that it holds. -/
structure Script where
  opener : LineToken
  lines : List LineToken

namespace Script

/-- A new script. A line of a script is itself the first line of it, the key of a module is not. -/
def start (opener : LineToken) : Script where
  opener
  lines := if opener.role = .moduleInvocation then [] else [opener]

/-- The script with one more line. -/
def add (script : Script) (token : LineToken) : Script :=
  { script with lines := script.lines ++ [token] }

/-- The script of the block that a line has opened or joined, the tracker being the one after the
line; the script stays as it is if no block is open. -/
def placed (script : Option Script) (tracker : Tracker) (token : LineToken) : Option Script :=
  if tracker.nesting.shell.isNone then script
  else if tracker.reopened.isSome then script.map (·.add token)
  else some (start token)

/-- The script of the block that is open after a line, or of the last block that has been. -/
def after (script : Option Script) (tracker : Tracker) (token : LineToken) : Option Script :=
  if token.role = .blank then script
  else
    match tracker.extendShell? token with
    | some _ => script.map (·.add token)
    | none => placed script (tracker.push token) token

/-- After a line a script is the one before it, without or with the line, or a new one. -/
theorem after_cases (script : Option Script) (tracker : Tracker) (token : LineToken) :
    after script tracker token = script ∨
      after script tracker token = script.map (·.add token) ∨
      after script tracker token = some (start token) := by
  unfold after placed
  split
  · exact .inl rfl
  · split
    · exact .inr (.inl rfl)
    · split
      · exact .inl rfl
      · split
        · exact .inr (.inl rfl)
        · exact .inr (.inr rfl)

end Script

namespace Rebuild

/-- The script after some more lines. -/
def scriptFrom (tracker : Tracker) (script : Option Script) : List LineToken → Option Script
  | [] => script
  | token :: rest => scriptFrom (tracker.push token) (Script.after script tracker token) rest

/-- The script of the block that is open after some lines of a run, or of the last block that has
been. -/
def scriptAfter (mode : RebuildMode) (kind : FileKind) (tokens : List LineToken) : Option Script :=
  scriptFrom (.start mode kind) none tokens

theorem scriptFrom_concat (tracker : Tracker) (script : Option Script) (tokens : List LineToken)
    (token : LineToken) :
    scriptFrom tracker script (tokens ++ [token]) =
      Script.after (scriptFrom tracker script tokens) (tokens.foldl Tracker.push tracker) token := by
  induction tokens generalizing tracker script with
  | nil => rfl
  | cons first rest ih => exact ih (tracker.push first) (Script.after script tracker first)

theorem scriptAfter_concat (mode : RebuildMode) (kind : FileKind) (tokens : List LineToken)
    (token : LineToken) :
    scriptAfter mode kind (tokens ++ [token]) =
      Script.after (scriptAfter mode kind tokens) (trackerAfter mode kind tokens) token :=
  scriptFrom_concat _ _ tokens token

/-- A script holds lines of the source in their order. -/
theorem scriptAfter_lines {mode : RebuildMode} {kind : FileKind} {tokens : List LineToken}
    {script : Script} (found : scriptAfter mode kind tokens = some script) :
    script.opener ∈ tokens ∧ script.lines.Sublist tokens := by
  induction tokens using List.reverseRecOn generalizing script with
  | nil => cases found
  | append_singleton tokens token ih =>
      rw [scriptAfter_concat] at found
      rcases Script.after_cases (scriptAfter mode kind tokens) (trackerAfter mode kind tokens) token
        with same | added | started
      · obtain ⟨opener, lines⟩ := ih (same.symm.trans found)
        exact ⟨List.mem_append_left _ opener, lines.trans (List.sublist_append_left ..)⟩
      · obtain ⟨earlier, same, rfl⟩ := Option.map_eq_some_iff.mp (added.symm.trans found)
        obtain ⟨opener, lines⟩ := ih same
        exact ⟨List.mem_append_left _ opener, lines.append_right [token]⟩
      · rw [started] at found
        cases found
        refine ⟨List.mem_append_right _ (List.mem_singleton_self token), ?_⟩
        unfold Script.start
        dsimp only
        split
        · exact List.nil_sublist _
        · exact List.sublist_append_right ..

end Rebuild

end PlaybookRepair
