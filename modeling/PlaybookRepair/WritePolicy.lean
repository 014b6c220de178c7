import PlaybookRepair.Repair

/-!
# Write policies

A write policy says which repaired texts replace their source. The repair of a single text follows
the same policy: a failed repair is an error unless even failed repairs are to be written.
-/

namespace PlaybookRepair

/-- Which results are written back. -/
inductive WritePolicy
  /-- None. -/
  | dryRun
  /-- Accepted repairs. -/
  | repaired
  /-- Accepted repairs and the last attempts of failed ones. -/
  | bestEffort
deriving Repr, DecidableEq

/-- Whether a policy writes results of the given status. -/
def WritePolicy.writes : WritePolicy → RepairStatus → Bool
  | dryRun, _ => false
  | repaired, status => status = .fixed
  | bestEffort, status => status ≠ .valid

/-- The failure of the repair of a single text. -/
structure Unrecoverable where
  diagnostic : String
deriving Repr, DecidableEq

/-- The message of a failed repair. -/
def Unrecoverable.message (failure : Unrecoverable) : String :=
  "Unrecoverable structure: " ++ failure.diagnostic

/-- A result as the answer to the repair of a single text. -/
def WritePolicy.accept (policy : WritePolicy) (result : RepairResult) :
    Except Unrecoverable RepairResult :=
  if !result.ok && policy ≠ .bestEffort then
    .error ⟨result.diagnostic.getD "no candidate verified"⟩
  else .ok result

/-- The repair of a single text. -/
def repairText (policy : WritePolicy) (defaults : MetaDefaults) (path text : Text) :
    Except Unrecoverable RepairResult :=
  policy.accept (repair defaults path text)

end PlaybookRepair
