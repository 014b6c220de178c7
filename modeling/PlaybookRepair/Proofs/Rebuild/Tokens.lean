import Mathlib.Data.List.Induction
import PlaybookRepair.Proofs.Role
import PlaybookRepair.Rebuild

/-!
# The lines of a run

In a rebuild every line of the source is classified once, in its order, and handed to the tracker.
The classified lines are `Rebuild.tokens`; after a part of them the tracker stands at
`Rebuild.trackerAfter`, and after all of them it is finished (`rebuild_eq`). A property that the
first tracker has and every line preserves is therefore one of all trackers on the way
(`Rebuild.invariant`).
-/

namespace PlaybookRepair

namespace Rebuild

/-- The lines as they are classified one after the other, each with whether it owns a `hosts`
key. -/
def tokensFrom (state : State) : List (Line × Bool) → List LineToken
  | [] => []
  | (line, itemHasHosts) :: rest =>
    let token := state.classify line itemHasHosts
    token :: tokensFrom (state.push token) rest

/-- The classified lines of a text. -/
def tokens (mode : RebuildMode) (kind : FileKind) (text : Text) : List LineToken :=
  let lines := Line.ofText text
  tokensFrom (.start mode kind) (lines.zip (ownsHosts lines))

/-- The tracker after some classified lines. -/
def trackerAfter (mode : RebuildMode) (kind : FileKind) (tokens : List LineToken) : Tracker :=
  tokens.foldl Tracker.push (.start mode kind)

theorem run_tracker (state : State) (lines : List (Line × Bool)) :
    (run state lines).tracker = (tokensFrom state lines).foldl Tracker.push state.tracker := by
  induction lines generalizing state with
  | nil => rfl
  | cons line rest ih =>
      rw [tokensFrom, List.foldl_cons]
      exact ih (state.step line.1 line.2)

theorem trackerAfter_concat (mode : RebuildMode) (kind : FileKind) (tokens : List LineToken)
    (token : LineToken) :
    trackerAfter mode kind (tokens ++ [token]) = (trackerAfter mode kind tokens).push token := by
  rw [trackerAfter, List.foldl_append]
  rfl

theorem classified_of_mem_tokensFrom {state : State} {lines : List (Line × Bool)}
    {token : LineToken} (member : token ∈ tokensFrom state lines) : token.Classified := by
  induction lines generalizing state with
  | nil => cases member
  | cons line rest ih =>
      rw [tokensFrom] at member
      rcases List.mem_cons.mp member with rfl | later
      · exact ⟨line.1, _, rfl⟩
      · exact ih later

theorem tokensFrom_lines (state : State) (lines : List (Line × Bool)) :
    (tokensFrom state lines).map (·.line) = lines.map Prod.fst := by
  induction lines generalizing state with
  | nil => rfl
  | cons line rest ih =>
      rw [tokensFrom, List.map_cons, List.map_cons, ih]
      rfl

/-- What holds of every element, of those before it and of those behind it can be checked by the
positions of the elements. -/
theorem forall_split {α : Type} {elements : List α} {property : List α → α → List α → Prop}
    (all : ∀ index : Fin elements.length,
      property (elements.take index) elements[index] (elements.drop (index + 1))) :
    ∀ before element later, elements = before ++ element :: later →
      property before element later := by
  rintro before element later rfl
  have here := all ⟨before.length, by simp⟩
  simpa using here

theorem length_hostsBelow (lines : List LineFacts) :
    (hostsBelow lines).1.length = lines.length := by
  induction lines with
  | nil => rfl
  | cons facts rest ih => rw [hostsBelow, List.length_cons, List.length_cons, ih]

section

variable {mode : RebuildMode} {kind : FileKind} {text : Text}

theorem classified_of_mem {token : LineToken} (member : token ∈ tokens mode kind text) :
    token.Classified :=
  classified_of_mem_tokensFrom member

variable (mode kind text)

/-- Every line of the source is classified once. -/
theorem tokens_lines : (tokens mode kind text).map (·.line) = Line.ofText text := by
  have paired : (ownsHosts (Line.ofText text)).length = (Line.ofText text).length := by
    rw [ownsHosts, length_hostsBelow, List.length_map]
  rw [tokens, tokensFrom_lines, List.map_fst_zip (Nat.le_of_eq paired.symm)]

/-- Lines are classified in the order of their numbers. -/
theorem tokens_pairwise :
    (tokens mode kind text).Pairwise fun first second => first.line.number < second.line.number := by
  have numbers : ((tokens mode kind text).map (·.line.number)).Pairwise (· < ·) := by
    have positions : (tokens mode kind text).map (·.line.number) =
        List.range' 1 (Text.lines text).length := by
      calc (tokens mode kind text).map (·.line.number)
          = ((tokens mode kind text).map (·.line)).map Line.number := by rw [List.map_map]; rfl
        _ = (((Text.lines text).zipIdx 1).map Prod.snd) := by
            rw [tokens_lines, Line.ofText, List.map_map]
            rfl
        _ = List.range' 1 (Text.lines text).length := List.zipIdx_map_snd 1 _
    rw [positions]
    exact List.pairwise_lt_range'
  exact List.pairwise_map.mp numbers

/-- A line has a greater number than all lines before it. -/
theorem number_lt_of_split {done later : List LineToken} {token : LineToken}
    (split : tokens mode kind text = done ++ token :: later) :
    ∀ earlier ∈ done, earlier.line.number < token.line.number := by
  have ordered := tokens_pairwise mode kind text
  rw [split] at ordered
  intro earlier member
  exact (List.pairwise_append.mp ordered).2.2 earlier member token (List.mem_cons_self ..)

/-- A line has one place among the lines of a text. -/
theorem split_unique {done later others rest : List LineToken} {token : LineToken}
    (split : tokens mode kind text = done ++ token :: later)
    (other : tokens mode kind text = others ++ token :: rest) : others = done := by
  have apart {first second more : List LineToken}
      (isSplit : tokens mode kind text = first ++ token :: second ++ token :: more) : False :=
    Nat.lt_irrefl _ (number_lt_of_split mode kind text isSplit token (by simp))
  rcases List.append_eq_append_iff.mp (split.symm.trans other) with
    ⟨between, rfl, same⟩ | ⟨between, rfl, same⟩
  · cases between with
    | nil => exact List.append_nil done
    | cons first between =>
        obtain ⟨rfl, _⟩ := List.cons.inj same
        exact (apart other).elim
  · cases between with
    | nil => exact (List.append_nil others).symm
    | cons first between =>
        obtain ⟨rfl, _⟩ := List.cons.inj same
        exact (apart split).elim

/-- **Invariants of a run.** What holds before the first line and is preserved by every line holds
after any part of the lines. -/
theorem invariant {property : List LineToken → Prop} (start : property [])
    (step : ∀ done token later, tokens mode kind text = done ++ token :: later → property done →
      property (done ++ [token])) :
    ∀ done later, tokens mode kind text = done ++ later → property done := by
  intro done
  induction done using List.reverseRecOn with
  | nil => exact fun _ _ => start
  | append_singleton done token ih =>
      intro later split
      rw [List.append_assoc, List.singleton_append] at split
      exact step done token later split (ih _ split)

end

end Rebuild

/-- A rebuilt document is what the tracker has written after the last line. -/
theorem rebuild_eq (mode : RebuildMode) (kind : FileKind) (text : Text) :
    rebuild mode kind text =
      (Rebuild.trackerAfter mode kind (Rebuild.tokens mode kind text)).finish := by
  rw [rebuild, Rebuild.run_tracker]
  rfl

end PlaybookRepair
