import Mathlib.Order.Fin.Basic
import Mathlib.Order.WellFounded
import PlaybookRepair.Proofs.FileKind.Preamble
import PlaybookRepair.Rebuild

/-!
# The search for `hosts` keys

Whether a list item owns a `hosts` key is found in one pass from the end of the lines, which carries
along whether a key has been met since the last bound (`hostsBelow_iff`). An item is marked exactly
if a `hosts` key follows before the next item with a name or with hosts and before the next document
marker. But the marker has to be bare: the search passes over a document marker with a remark, so an
item may be marked for a key of the next document (`ownsHosts_iff`, `ownsHosts_across`).
-/

namespace PlaybookRepair.Rebuild

/-! ## Keys, items and markers -/

/-- The line is a `hosts` key without a list marker. -/
def IsHostsKey (line : Line) : Prop :=
  (LineFacts.ofLine line).dashed = false ∧ (LineFacts.ofLine line).hasKey "hosts"

/-- The line is a list item that starts with a name or with hosts. -/
def IsHeadedItem (line : Line) : Prop :=
  (LineFacts.ofLine line).dashed ∧
    ((LineFacts.ofLine line).hasKey "name" ∨ (LineFacts.ofLine line).hasKey "hosts")

/-- The line is a document marker without a remark. -/
def IsBareMarker (line : Line) : Prop := line.content = "---".toList

/-- The line is a document marker in some surroundings. -/
def IsDocumentMarker (line : Line) : Prop :=
  ∃ around, (LineToken.classify line around).role = .documentMarker

instance : DecidablePred IsHostsKey := fun _ => inferInstanceAs (Decidable (_ ∧ _))

instance : DecidablePred IsHeadedItem := fun _ => inferInstanceAs (Decidable (_ ∧ _))

/-- A document marker is bare or has a remark. -/
theorem isDocumentMarker_iff {line : Line} :
    IsDocumentMarker line ↔ IsBareMarker line ∨ IsRemarkedMarker line.raw := by
  have isMarker (around : Surroundings) :
      (LineToken.classify line around).role = .documentMarker ↔
        IsBareMarker line ∨ IsRemarkedMarker line.raw := by
    rw [IsRemarkedMarker, ← List.isPrefixOf_iff_prefix]
    exact Role.ofFacts_eq_documentMarker_iff (.ofLine line) around
  exact ⟨fun ⟨around, role⟩ => (isMarker around).mp role, fun marker => ⟨{}, (isMarker {}).mpr marker⟩⟩

instance : DecidablePred IsBareMarker := fun _ => inferInstanceAs (Decidable (_ = _))

instance : DecidablePred IsDocumentMarker := fun _ => decidable_of_iff _ isDocumentMarker_iff.symm

/-- A document marker is no `hosts` key. -/
theorem IsHostsKey.not_isDocumentMarker {line : Line} (isKey : IsHostsKey line) :
    ¬ IsDocumentMarker line := by
  rintro ⟨around, role⟩
  have isPreamble : IsPreambleLine line.raw := ⟨line.number, around, by
    change (LineToken.classify line around).role.isPreamble
    rw [role]
    rfl⟩
  have hasKey := isKey.2
  rw [LineFacts.hasKey, (isPreamble.facts line.number).2] at hasKey
  cases hasKey

theorem boundsHosts_ofLine {line : Line} :
    boundsHosts (.ofLine line) = false ↔ ¬ IsHeadedItem line ∧ ¬ IsBareMarker line := by
  have content : (LineFacts.ofLine line).content = line.content := rfl
  rw [boundsHosts, content, Bool.or_eq_false_iff, and_comm, IsHeadedItem, IsBareMarker]
  simp

theorem IsHostsKey.boundsHosts {line : Line} (isKey : IsHostsKey line) :
    boundsHosts (.ofLine line) = false := by
  refine boundsHosts_ofLine.mpr ⟨fun isItem => ?_, fun isBare => ?_⟩
  · rw [IsHeadedItem, isKey.1] at isItem
    cases isItem.1
  · exact isKey.not_isDocumentMarker (isDocumentMarker_iff.mpr (.inl isBare))

/-! ## The pass -/

theorem hostsBelow_cons (facts : LineFacts) (rest : List LineFacts) :
    hostsBelow (facts :: rest) =
      ((facts.dashed && (hostsBelow rest).2) :: (hostsBelow rest).1,
        if boundsHosts facts then false
        else (!facts.dashed && facts.hasKey "hosts") || (hostsBelow rest).2) :=
  rfl

/-- What is carried along: whether a key has been met since the last bound. -/
theorem hostsBelow_iff (lines : List Line) :
    (hostsBelow (lines.map .ofLine)).2 ↔
      ∃ (key : Nat) (inside : key < lines.length), IsHostsKey lines[key] ∧
        ∀ (between : Nat) (before : between < key),
          ¬ IsHeadedItem lines[between] ∧ ¬ IsBareMarker lines[between] := by
  induction lines with
  | nil => simp [hostsBelow]
  | cons line rest ih =>
    rw [List.map_cons, hostsBelow_cons]
    cases bounds : boundsHosts (.ofLine line) with
    | false =>
      rw [if_neg Bool.false_ne_true, Bool.or_eq_true, ih]
      constructor
      · rintro (own | ⟨key, inside, isKey, free⟩)
        · exact ⟨0, Nat.zero_lt_succ _, by simpa [IsHostsKey] using own, nofun⟩
        · refine ⟨key + 1, Nat.succ_lt_succ inside, isKey, fun between before => ?_⟩
          cases between with
          | zero => exact boundsHosts_ofLine.mp bounds
          | succ between => exact free between (Nat.lt_of_succ_lt_succ before)
      · rintro ⟨key, inside, isKey, free⟩
        cases key with
        | zero => exact .inl (by simpa [IsHostsKey] using isKey)
        | succ key =>
          exact .inr ⟨key, Nat.lt_of_succ_lt_succ inside, isKey, fun between before =>
            free (between + 1) (Nat.succ_lt_succ before)⟩
    | true =>
      refine iff_of_false Bool.false_ne_true ?_
      rintro ⟨key, inside, isKey, free⟩
      have unbound : boundsHosts (.ofLine line) = false := by
        cases key with
        | zero => exact isKey.boundsHosts
        | succ key => exact boundsHosts_ofLine.mpr (free 0 (Nat.zero_lt_succ key))
      rw [unbound] at bounds
      cases bounds

/-- A line is marked exactly if it is a list item with a key below it. -/
theorem getElem?_hostsBelow (lines : List LineFacts) (index : Nat) (inside : index < lines.length) :
    (hostsBelow lines).1[index]? =
      some (lines[index].dashed && (hostsBelow (lines.drop (index + 1))).2) := by
  induction lines generalizing index with
  | nil => cases inside
  | cons facts rest ih =>
    cases index with
    | zero => rfl
    | succ index => exact ih index (Nat.lt_of_succ_lt_succ inside)

/-! ## Items with `hosts` keys -/

/-- The line is a list item with a `hosts` key below it, and between them there is no item with a
name or with hosts and no marker. -/
def HasHosts (IsMarker : Line → Prop) (lines : List Line) (index : Fin lines.length) : Prop :=
  (LineFacts.ofLine lines[index]).dashed ∧
    ∃ key > index, IsHostsKey lines[key] ∧ ∀ between, index < between → between < key →
      ¬ IsHeadedItem lines[between] ∧ ¬ IsMarker lines[between]

instance (IsMarker : Line → Prop) [DecidablePred IsMarker] (lines : List Line)
    (index : Fin lines.length) : Decidable (HasHosts IsMarker lines index) :=
  inferInstanceAs (Decidable (_ ∧ ∃ _, _ ∧ _))

/-- The pass finds the items with `hosts` keys, with bare document markers as bounds. -/
theorem ownsHosts_eq_true_iff (lines : List Line) (index : Fin lines.length) :
    (ownsHosts lines)[index.val]? = some true ↔ HasHosts IsBareMarker lines index := by
  have inside : index.val < (lines.map LineFacts.ofLine).length := by simp
  rw [ownsHosts, getElem?_hostsBelow _ _ inside, Option.some_inj, Bool.and_eq_true,
    List.getElem_map, ← List.map_drop, hostsBelow_iff]
  refine and_congr Iff.rfl ⟨?_, ?_⟩
  · rintro ⟨key, inside, isKey, free⟩
    rw [List.getElem_drop] at isKey
    rw [List.length_drop] at inside
    refine ⟨⟨index + 1 + key, by omega⟩, Fin.lt_def.mpr (by dsimp only; omega), isKey, ?_⟩
    rintro ⟨between, _⟩ after before
    obtain ⟨offset, rfl⟩ := Nat.exists_eq_add_of_le (Nat.succ_le_of_lt (Fin.lt_def.mp after))
    have unbound := free offset (Nat.lt_of_add_lt_add_left (Fin.lt_def.mp before))
    simp only [List.getElem_drop] at unbound
    exact unbound
  · rintro ⟨⟨key, inside⟩, after, isKey, free⟩
    obtain ⟨offset, rfl⟩ := Nat.exists_eq_add_of_le (Nat.succ_le_of_lt (Fin.lt_def.mp after))
    have shorter : offset < (lines.drop (index + 1)).length := by
      rw [List.length_drop]
      omega
    refine ⟨offset, shorter, by rwa [List.getElem_drop], fun between before => ?_⟩
    simp only [List.getElem_drop]
    exact free ⟨index + 1 + between, by omega⟩ (Fin.lt_def.mpr (by dsimp only; omega))
      (Fin.lt_def.mpr (Nat.add_lt_add_left before _))

/-- **Items with `hosts` keys.** A line is marked exactly if it is a list item with a `hosts` key below
it, no item with a name or with hosts and no bare document marker being between them. This is the
search up to the next document marker of any kind exactly if the line is not marked or each marker
with a remark below it comes after a `hosts` key. -/
theorem ownsHosts_iff (lines : List Line) (index : Fin lines.length) :
    let marked := (ownsHosts lines)[index.val]? = some true
    (marked ↔ HasHosts IsBareMarker lines index) ∧
      ((marked ↔ HasHosts IsDocumentMarker lines index) ↔
        (marked → ∀ marker > index, IsRemarkedMarker lines[marker].raw →
          ∃ key, index < key ∧ key < marker ∧ IsHostsKey lines[key])) := by
  intro marked
  have isMarked : marked ↔ HasHosts IsBareMarker lines index := ownsHosts_eq_true_iff lines index
  refine ⟨isMarked, ?_⟩
  rw [isMarked]
  constructor
  · intro agrees hasHosts marker after remarked
    obtain ⟨-, key, afterKey, isKey, free⟩ := agrees.mp hasHosts
    have isMarker : IsDocumentMarker lines[marker] := isDocumentMarker_iff.mpr (.inr remarked)
    refine ⟨key, afterKey, ?_, isKey⟩
    -- The marker is neither before the key nor the key itself.
    rcases lt_trichotomy marker key with before | rfl | behind
    · exact ((free marker after before).2 isMarker).elim
    · exact (isKey.not_isDocumentMarker isMarker).elim
    · exact behind
  · intro keyFirst
    constructor
    · intro hasHosts
      obtain ⟨dashed, key, after, isKey, free⟩ := hasHosts
      -- The first key below the item is before every marker with a remark.
      obtain ⟨first, ⟨afterFirst, isFirst⟩, least⟩ := wellFounded_lt.has_min
        {key : Fin lines.length | index < key ∧ IsHostsKey lines[key]} ⟨key, after, isKey⟩
      refine ⟨dashed, first, afterFirst, isFirst, fun between behind before => ?_⟩
      obtain ⟨noItem, notBare⟩ := free between behind
        (before.trans_le (not_lt.mp (least key ⟨after, isKey⟩)))
      refine ⟨noItem, fun isMarker => ?_⟩
      have remarked := (isDocumentMarker_iff.mp isMarker).resolve_left notBare
      obtain ⟨earlier, afterEarlier, beforeMarker, isEarlier⟩ := keyFirst
        ⟨dashed, key, after, isKey, free⟩ between behind remarked
      exact least earlier ⟨afterEarlier, isEarlier⟩ (beforeMarker.trans before)
    · rintro ⟨dashed, key, after, isKey, free⟩
      refine ⟨dashed, key, after, isKey, fun between behind before => ?_⟩
      obtain ⟨noItem, noMarker⟩ := free between behind before
      exact ⟨noItem, fun isBare => noMarker (isDocumentMarker_iff.mpr (.inl isBare))⟩

/-- The second list item is marked for a key of the next document. -/
theorem ownsHosts_across :
    let lines := Line.ofText
      "- hosts: web\n  tasks:\n  - name: a\n    ping:\n--- # next\nhosts: db\n".toList
    ownsHosts lines = [false, false, true, false, false, false] ∧
      ∃ index : Fin lines.length, index.val = 2 ∧ ¬ HasHosts IsDocumentMarker lines index := by
  intro lines
  refine ⟨by decide, ⟨2, by decide⟩, rfl, by decide⟩

end PlaybookRepair.Rebuild
