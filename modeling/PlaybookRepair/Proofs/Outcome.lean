import Mathlib.Data.List.Lex
import PlaybookRepair.Run

/-!
# Outcomes in any order

An outcome depends on the order of its reports only until they are sorted: reports on paths with
different components have one order (`Outcome.sorted_eq_of_perm`).
-/

namespace PlaybookRepair

namespace Path

theorem precedes_iff (left right : Path) :
    precedes left right ↔ orderKey left ≤ orderKey right := by
  have inner : (fun first second : List Nat => first.lex second Nat.blt = true) = (· < ·) := by
    funext first second
    rw [List.lex_eq_true_iff_lex]
    simp only [Nat.blt_eq]
    rfl
  rw [precedes, Bool.not_eq_true', List.lex_eq_false_iff_not_lex, inner, ← not_lt]
  rfl

/-- Paths that stand in the same place of the order have the same components. -/
theorem components_eq_of_orderKey {left right : Path} (same : orderKey left = orderKey right) :
    components left = components right := by
  have injective : Function.Injective Component.orderKey := by
    intro first second keys
    have texts {first second : Text} (codes : first.map Char.toNat = second.map Char.toNat) :
        first = second :=
      List.map_injective_iff.mpr (fun _ _ => Char.toNat_inj.mp) codes
    cases first <;> cases second <;> simp only [Component.orderKey] at keys <;>
      first
      | rfl
      | cases keys
      | exact congrArg Component.name (texts (List.cons.inj keys).2)
  exact List.map_injective_iff.mpr injective same

end Path

namespace Summary

theorem count_comm (summary : Summary) (first second : FileStatus) :
    (summary.count first).count second = (summary.count second).count first := by
  cases first <;> cases second <;> rfl

theorem empty_merge (summary : Summary) : Summary.merge {} summary = summary := by
  simp [merge]

/-- A file more in the left part is a file more in the right part. -/
theorem count_merge (left right : Summary) (status : FileStatus) :
    (left.count status).merge right = left.merge ((Summary.count {} status).merge right) := by
  cases status <;> simp [merge, count, Nat.add_assoc]

end Summary

namespace Outcome

theorem foldl_push (outcome : Outcome) (reports : List Report) :
    reports.foldl push outcome =
      ⟨outcome.reports ++ reports,
        reports.foldl (fun summary report => summary.count report.status) outcome.summary⟩ := by
  induction reports generalizing outcome with
  | nil => simp
  | cons report reports ih =>
      rw [List.foldl_cons, ih, List.foldl_cons, push, List.append_assoc]
      rfl

theorem reports_ofReports (reports : List Report) : (ofReports reports).reports = reports := by
  rw [ofReports, foldl_push]
  exact List.nil_append _

theorem merge_empty (outcome : Outcome) : outcome.merge {} = outcome := by
  rw [merge, List.append_nil]
  rfl

theorem empty_merge (outcome : Outcome) : Outcome.merge {} outcome = outcome := by
  rw [merge, Summary.empty_merge]
  rfl

/-- A report at the start of what follows is a report at the end of what came before. -/
theorem push_merge (outcome : Outcome) (report : Report) (rest : Outcome) :
    (outcome.push report).merge rest = outcome.merge ((push {} report).merge rest) := by
  rw [push, merge, Summary.count_merge, merge, merge, push]
  simp

/-- Reports on different paths have one order. -/
theorem sorted_eq_of_perm {first second : List Report} (perm : first.Perm second)
    (distinct : ∀ left ∈ first, ∀ right ∈ second,
      Path.components left.path = Path.components right.path → left = right) :
    (ofReports first).sorted = (ofReports second).sorted := by
  have le (left right : Report) : Path.precedes left.path right.path = true ↔
      Path.orderKey left.path ≤ Path.orderKey right.path := Path.precedes_iff _ _
  have summaries : (ofReports first).summary = (ofReports second).summary := by
    rw [ofReports, ofReports, foldl_push, foldl_push]
    exact perm.foldl_eq' (fun _ _ _ _ _ => Summary.count_comm _ _ _) _
  have sorts (reports : List Report) :
      (reports.mergeSort fun left right => Path.precedes left.path right.path).Pairwise
        fun left right => Path.precedes left.path right.path := by
    refine List.pairwise_mergeSort (fun left middle right => ?_) (fun left right => ?_) reports
    · rw [le, le, le]
      exact le_trans
    · rw [Bool.or_eq_true, le, le]
      exact le_total _ _
  rw [sorted, sorted, reports_ofReports, reports_ofReports, summaries]
  congr 1
  refine List.Perm.eq_of_pairwise ?_ (sorts first) (sorts second)
    ((List.mergeSort_perm first _).trans (perm.trans (List.mergeSort_perm second _).symm))
  intro left right isLeft isRight before after
  refine distinct left (List.mem_mergeSort.mp isLeft) right (List.mem_mergeSort.mp isRight) ?_
  rw [le] at before after
  exact Path.components_eq_of_orderKey (le_antisymm before after)

end Outcome

end PlaybookRepair
