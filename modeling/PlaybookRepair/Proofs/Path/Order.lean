import PlaybookRepair.Proofs.Outcome

/-!
# Paths in order, each once

Sorting puts paths with the same components beside each other, because the order of paths and their
sameness both go by components. Leaving out repeats then leaves a strictly ascending list
(`ascending_withoutRepeats`), and such a list is settled by the paths in it, apart from how they are
written (`Ascending.components_eq`).
-/

namespace PlaybookRepair.Path

/-- The paths ascend strictly, component by component. -/
def Ascending (paths : List Path) : Prop :=
  paths.Pairwise fun first second => orderKey first < orderKey second

/-- A path is among the given ones, perhaps written otherwise. -/
def Among (paths : List Path) (path : Path) : Prop := ∃ other ∈ paths, same other path

theorem same_iff {left right : Path} : same left right ↔ orderKey left = orderKey right := by
  rw [same, decide_eq_true_eq]
  exact ⟨congrArg (List.map Component.orderKey), components_eq_of_orderKey⟩

theorem pairwise_sort (paths : List Path) :
    (sort paths).Pairwise fun first second => orderKey first ≤ orderKey second := by
  have sorted : (sort paths).Pairwise fun first second => precedes first second := by
    refine List.pairwise_mergeSort (fun left middle right => ?_) (fun left right => ?_) paths
    · rw [precedes_iff, precedes_iff, precedes_iff]
      exact le_trans
    · rw [Bool.or_eq_true, precedes_iff, precedes_iff]
      exact le_total _ _
  exact sorted.imp fun before => (precedes_iff _ _).mp before

theorem withoutRepeats_sublist (paths : List Path) : (withoutRepeats paths).Sublist paths := by
  fun_induction withoutRepeats paths with
  | case1 => exact .slnil
  | case2 path rest none ih => exact (List.nil_sublist rest).cons_cons path
  | case3 path rest next more found isSame ih =>
    rw [found] at ih
    exact ((List.sublist_cons_self next more).trans ih).cons_cons path
  | case4 path rest next more found other ih =>
    rw [found] at ih
    exact ih.cons_cons path

/-- What is left out is the same as something that is kept. -/
theorem among_withoutRepeats {paths : List Path} {path : Path} :
    Among (withoutRepeats paths) path ↔ Among paths path := by
  refine ⟨fun ⟨other, member, isSame⟩ =>
    ⟨other, (withoutRepeats_sublist paths).subset member, isSame⟩, ?_⟩
  rintro ⟨other, member, isSame⟩
  rw [same_iff] at isSame
  suffices kept : ∃ first ∈ withoutRepeats paths, orderKey first = orderKey other by
    obtain ⟨first, isKept, key⟩ := kept
    exact ⟨first, isKept, same_iff.mpr (key.trans isSame)⟩
  clear isSame
  fun_induction withoutRepeats paths with
  | case1 => cases member
  | case2 path rest none ih =>
    rcases List.mem_cons.mp member with rfl | later
    · exact ⟨other, List.mem_cons_self, rfl⟩
    · obtain ⟨first, isKept, _⟩ := ih later
      rw [none] at isKept
      cases isKept
  | case3 path rest next more found isSame ih =>
    rcases List.mem_cons.mp member with rfl | later
    · exact ⟨other, List.mem_cons_self, rfl⟩
    · obtain ⟨first, isKept, key⟩ := ih later
      rw [found] at isKept
      rcases List.mem_cons.mp isKept with rfl | isLater
      · exact ⟨path, List.mem_cons_self, (same_iff.mp isSame).trans key⟩
      · exact ⟨first, List.mem_cons_of_mem _ isLater, key⟩
  | case4 path rest next more found isOther ih =>
    rcases List.mem_cons.mp member with rfl | later
    · exact ⟨other, List.mem_cons_self, rfl⟩
    · obtain ⟨first, isKept, key⟩ := ih later
      rw [found] at isKept
      exact ⟨first, List.mem_cons_of_mem _ isKept, key⟩

/-- A sorted list without its repeats ascends strictly. -/
theorem ascending_withoutRepeats {paths : List Path}
    (sorted : paths.Pairwise fun first second => orderKey first ≤ orderKey second) :
    Ascending (withoutRepeats paths) := by
  unfold Ascending
  fun_induction withoutRepeats paths with
  | case1 => exact .nil
  | case2 path rest none ih => exact List.pairwise_singleton _ _
  | case3 path rest next more found isSame ih =>
    have ascends := ih (List.pairwise_cons.mp sorted).2
    rw [found] at ascends
    -- The path takes the place of the one that is the same.
    obtain ⟨behind, ascends⟩ := List.pairwise_cons.mp ascends
    rw [same_iff] at isSame
    exact List.pairwise_cons.mpr ⟨fun last member => isSame ▸ behind last member, ascends⟩
  | case4 path rest next more found isOther ih =>
    obtain ⟨least, sorted⟩ := List.pairwise_cons.mp sorted
    have ascends := ih sorted
    rw [found] at ascends
    have isNext : next ∈ rest :=
      (withoutRepeats_sublist rest).subset (found ▸ List.mem_cons_self)
    have before : orderKey path < orderKey next :=
      lt_of_le_of_ne (least next isNext) fun key => isOther (same_iff.mpr key)
    refine List.pairwise_cons.mpr ⟨fun last member => ?_, ascends⟩
    rcases List.mem_cons.mp member with rfl | later
    · exact before
    · exact before.trans ((List.pairwise_cons.mp ascends).1 last later)

/-- Lists of paths that stand in the same places of the order have the same components. -/
theorem map_components_eq_of_orderKey {first second : List Path}
    (keys : first.map orderKey = second.map orderKey) :
    first.map components = second.map components := by
  induction first generalizing second with
  | nil => rw [List.map_eq_nil_iff.mp keys.symm]
  | cons path first ih =>
    obtain ⟨other, rest, rfl, key, keys⟩ := List.map_eq_cons_iff.mp keys.symm
    rw [List.map_cons, List.map_cons, components_eq_of_orderKey key, ih keys.symm]

/-- Ascending lists of the same paths are the same, apart from how the paths are written. -/
theorem Ascending.components_eq {first second : List Path} (ascends : Ascending first)
    (ascends' : Ascending second) (alike : ∀ path, Among first path ↔ Among second path) :
    first.map components = second.map components := by
  have keys (paths : List Path) (key : List (List Nat)) :
      key ∈ paths.map orderKey ↔ ∃ path, Among paths path ∧ orderKey path = key := by
    rw [List.mem_map]
    constructor
    · rintro ⟨path, member, isKey⟩
      exact ⟨path, ⟨path, member, same_iff.mpr rfl⟩, isKey⟩
    · rintro ⟨path, ⟨other, member, isSame⟩, isKey⟩
      exact ⟨other, member, (same_iff.mp isSame).trans isKey⟩
  have sorted : (first.map orderKey).Pairwise (· < ·) := List.pairwise_map.mpr ascends
  have sorted' : (second.map orderKey).Pairwise (· < ·) := List.pairwise_map.mpr ascends'
  refine map_components_eq_of_orderKey (List.Perm.eq_of_pairwise
    (fun left right _ _ before after => (lt_asymm before after).elim) sorted sorted' ?_)
  refine (List.perm_ext_iff_of_nodup (sorted.imp ne_of_lt) (sorted'.imp ne_of_lt)).mpr fun key => ?_
  simp only [keys, alike]

end PlaybookRepair.Path
