import PlaybookRepair.Proofs.Outline.Document
import PlaybookRepair.Proofs.Rebuild.Layout

/-!
# Documents of a full rebuild

The canonical mode starts its text with a document marker and writes none for those of the source.
What it writes for a line is added to what stands there already (`Rebuild.emissions`), as long as no
script is about, and no document marker is among it (`Tracker.Alike.push_emits`). Lines on different
sides of a document marker are therefore kept apart exactly if nothing is written on one of the sides
(`rebuild_documents`); a text of two documents with content is merged into one
(`rebuild_documents_merged`).
-/

namespace PlaybookRepair

/-- Three hyphens, alone or before a space, start a document. -/
def IsMarkerLine (line : Text) : Prop := line = "---".toList ∨ "--- ".toList.isPrefixOf line

instance (line : Text) : Decidable (IsMarkerLine line) := inferInstanceAs (Decidable (_ ∨ _))

/-! ## Lines without a document marker -/

theorem IsMarkerLine.exists_cons {line : Text} (isMarker : IsMarkerLine line) :
    ∃ rest, line = '-' :: '-' :: rest := by
  rcases isMarker with rfl | starts
  · exact ⟨_, rfl⟩
  · obtain ⟨rest, rfl⟩ := List.isPrefixOf_iff_prefix.mp starts
    exact ⟨_, rfl⟩

theorem not_isMarkerLine_of_startsKey {line : Text} (starts : line.StartsKey) :
    ¬ IsMarkerLine line := by
  intro isMarker
  obtain ⟨c, _, same, _, notHyphen⟩ := starts
  obtain ⟨_, hyphens⟩ := isMarker.exists_cons
  rw [same] at hyphens
  exact notHyphen (List.cons.inj hyphens).1

theorem not_isMarkerLine_listItemText (text : Text) : ¬ IsMarkerLine (listItemText text) := by
  intro isMarker
  obtain ⟨_, hyphens⟩ := isMarker.exists_cons
  cases hyphens

/-- No document marker stands behind a margin. -/
theorem IsMarkerLine.of_append {margin line : Text} (areBlank : ∀ c ∈ margin, Text.isBlank c)
    (isMarker : IsMarkerLine (margin ++ line)) : IsMarkerLine line := by
  cases margin with
  | nil => exact isMarker
  | cons c margin =>
      obtain ⟨_, hyphens⟩ := isMarker.exists_cons
      obtain rfl : c = '-' := (List.cons.inj hyphens).1
      exact absurd (areBlank '-' List.mem_cons_self) (by decide)

theorem IsMarkerLine.of_indented {column : Nat} {line : Text}
    (isMarker : IsMarkerLine (List.replicate column ' ' ++ line)) : IsMarkerLine line :=
  isMarker.of_append fun c member => by
    rw [List.eq_of_mem_replicate member]
    rfl

namespace LineToken

variable {token : LineToken} (classified : token.Classified)
  (noMarker : ¬ IsMarkerLine token.content)
include classified noMarker

theorem not_isMarkerLine_nestedText : ¬ IsMarkerLine token.nestedText := by
  unfold nestedText
  split
  · exact not_isMarkerLine_listItemText _
  · split
    · decide
    · exact not_isMarkerLine_listItemText _
  · next hasKey =>
      exact not_isMarkerLine_of_startsKey (classified.startsKey_keyedText (by rw [hasKey]; rfl))
  · exact noMarker

/-- A line that is not a document marker is not written as one. -/
theorem WrittenAs.not_isMarkerLine (hasContent : token.content ≠ []) (noShell : ¬ token.IsShellKey)
    {line : Text} (written : token.WrittenAs line) : ¬ IsMarkerLine line := by
  cases written with
  | content column => exact fun isMarker => noMarker isMarker.of_indented
  | nested column =>
      exact fun isMarker => not_isMarkerLine_nestedText classified noMarker isMarker.of_indented
  | keyed column hasKey =>
      exact fun isMarker =>
        not_isMarkerLine_of_startsKey (classified.startsKey_keyedText hasKey) isMarker.of_indented
  | item column => exact fun isMarker => not_isMarkerLine_listItemText _ isMarker.of_indented
  | header _ _ isKey => exact (noShell isKey).elim
  | itemHeader _ _ isKey => exact (noShell isKey).elim
  | copied =>
      intro isMarker
      rw [Text.trimEnd_eq hasContent] at isMarker
      exact noMarker (isMarker.of_append fun c member => List.mem_takeWhile_imp member)

end LineToken

/-! ## What a line adds -/

namespace Tracker

variable {tracker : Tracker} {token : LineToken}

/-- The written lines are neither empty nor document markers. -/
def ArePlain (lines : List Text) : Prop := ∀ line ∈ lines, line ≠ [] ∧ ¬ IsMarkerLine line

theorem arePlain_supplied {lines : List Text} (areSupplied : AreSupplied lines) :
    ArePlain lines := by
  rcases areSupplied with rfl | rfl
  · exact List.forall_mem_nil _
  · exact List.forall_mem_singleton.mpr (by decide)

/-- The canonical mode drops the document markers of the source. -/
theorem Alike.out_push_documentMarker (alike : Alike tracker tracker)
    (isMarker : token.role = .documentMarker) : (tracker.push token).out = tracker.out := by
  have notBlank : token.role ≠ .blank := isMarker ▸ nofun
  have apart : tracker.takeNested? token = none := by
    generalize isOpen : tracker.nesting.openKey = key
    have keys := alike.openKey
    rw [isOpen] at keys
    cases keys with
    | closed => exact takeNested?_of_closed isOpen
    | opened => exact takeNested?_of_apartByRole alike.mode.1 isOpen (by rw [isMarker]; rfl)
  have canonical : tracker.closeKey.mode ≠ .incremental := by
    rw [show tracker.closeKey.mode = .canonical from alike.mode.1]
    nofun
  have left : tracker.leave token = tracker.closeKey := by
    have leftKey : tracker.leaveKey token = tracker.closeKey := if_neg (by simp [isMarker])
    unfold Tracker.leave
    rw [leftKey]
    exact if_neg canonical
  rw [push_of_noShell alike.shell.1, pushOutsideShell_of_apart notBlank apart, left, Tracker.place,
    isMarker]
  change (tracker.closeKey.pushDocumentMarker token).out = tracker.out
  unfold Tracker.pushDocumentMarker
  dsimp only
  rw [if_neg canonical]
  rfl

section

variable (alike : Alike tracker tracker) (classified : token.Classified)
  (plain : token.role ≠ .blank → token.role ≠ .comment → token.IsPlain)
include alike classified plain

/-- The tracker goes on without scripts and block scalars. -/
theorem Alike.push_self : Alike (tracker.push token) (tracker.push token) := by
  by_cases silent : token.role = .blank ∨ token.role = .comment
  · rw [alike.push_of_silent silent]
    exact alike
  · obtain ⟨notBlank, notComment⟩ := not_or.mp silent
    have isPlain := plain notBlank notComment
    have noFragment : ∀ family, token.role ≠ .shellFragment family := by
      intro family role
      have fits := classified.fits
      rw [role, Role.Fits, isPlain.noFragment] at fits
      cases fits
    have pushed : Alike (tracker.push token) (tracker.push (token.moved token.line)) :=
      alike.push isPlain noFragment rfl
    exact pushed

/-- **What a line adds.** A line of no script adds lines that are neither empty nor document
markers, and if it is a document marker itself, it adds nothing. -/
theorem Alike.push_emits :
    ∃ lines, (tracker.push token).out = tracker.out ++ lines ∧ ArePlain lines ∧
      (token.role = .documentMarker → lines = []) := by
  by_cases silent : token.role = .blank ∨ token.role = .comment
  · exact ⟨[], by rw [alike.push_of_silent silent, List.append_nil], List.forall_mem_nil _,
      fun _ => rfl⟩
  by_cases isMarker : token.role = .documentMarker
  · exact ⟨[], by rw [alike.out_push_documentMarker isMarker, List.append_nil],
      List.forall_mem_nil _, fun _ => rfl⟩
  obtain ⟨notBlank, notComment⟩ := not_or.mp silent
  have isPlain := plain notBlank notComment
  have hasContent : token.content ≠ [] := mt classified.role_eq_blank_iff.mpr notBlank
  have noMarker : ¬ IsMarkerLine token.content :=
    mt classified.role_eq_documentMarker_iff.mpr isMarker
  have noShell : ¬ token.IsShellKey := fun isKey =>
    Bool.eq_false_iff.mp isPlain.noShellKey isKey.2
  have noFragment : ¬ token.IsFragment := by
    rintro ⟨family, role⟩
    have fits := classified.fits
    rw [role, Role.Fits, isPlain.noFragment] at fits
    cases fits
  suffices ∃ lines, (tracker.push token).out = tracker.out ++ lines ∧ ArePlain lines by
    obtain ⟨lines, out, arePlain⟩ := this
    exact ⟨lines, out, arePlain, fun role => (isMarker role).elim⟩
  rw [push_of_noShell alike.shell.1]
  cases tracker.effect_pushOutsideShell classified hasContent with
  | wrote supplied line areSupplied written adds =>
      exact ⟨_, adds.out, List.forall_mem_append.mpr ⟨arePlain_supplied areSupplied,
        List.forall_mem_singleton.mpr ⟨written.ne_nil hasContent,
          LineToken.WrittenAs.not_isMarkerLine classified noMarker hasContent noShell written⟩⟩⟩
  | dropped _ _ adds => exact ⟨_, adds.out, List.forall_mem_nil _⟩
  | opened _ _ _ _ _ opens =>
      cases opens with
      | key isKey => exact (noShell isKey).elim
      | fragment isFragment => exact (noFragment isFragment).elim
  | rejoined _ _ _ _ isFragment => exact (noFragment isFragment).elim

end

theorem dropTrailingEmpty_eq_self {lines : List Text} (notEmpty : ∀ line ∈ lines, line ≠ []) :
    dropTrailingEmpty lines = lines := by
  induction lines with
  | nil => rfl
  | cons line rest ih =>
      obtain ⟨isLine, later⟩ := List.forall_mem_cons.mp notEmpty
      rw [dropTrailingEmpty_cons isLine, ih later]

end Tracker

/-! ## What a text is written as -/

namespace Rebuild

/-- For each line the lines that are written for it. -/
def emissionsFrom (tracker : Tracker) : List LineToken → List (LineToken × List Text)
  | [] => []
  | token :: rest =>
    (token, (tracker.push token).out.drop tracker.out.length) ::
      emissionsFrom (tracker.push token) rest

/-- For each line of a text the lines that the canonical mode writes for it. -/
def emissions (kind : FileKind) (text : Text) : List (LineToken × List Text) :=
  emissionsFrom (.start .canonical kind) (tokens .canonical kind text)

/-- Between what is written for lines on different sides of a document marker there is a document
marker. -/
def KeepsApart (emissions : List (LineToken × List Text)) : Prop :=
  ∀ above marker below, emissions = above ++ marker :: below → IsMarkerLine marker.1.content →
    ∀ before first behind ahead second after,
      above.flatMap (·.2) = before ++ first :: behind →
      below.flatMap (·.2) = ahead ++ second :: after →
        ∃ line ∈ behind ++ marker.2 ++ ahead, IsMarkerLine line

/-- The lines that are written are those that every line adds, and there is no document marker
among them. -/
theorem emissionsFrom_spec {tracker : Tracker} (alike : tracker.Alike tracker)
    {lines : List LineToken} (classified : ∀ token ∈ lines, token.Classified)
    (plain : ∀ token ∈ lines, token.role ≠ .blank → token.role ≠ .comment → token.IsPlain) :
    (lines.foldl Tracker.push tracker).Alike (lines.foldl Tracker.push tracker) ∧
      (lines.foldl Tracker.push tracker).out =
        tracker.out ++ (emissionsFrom tracker lines).flatMap (·.2) ∧
      (emissionsFrom tracker lines).map (·.1) = lines ∧
      ∀ emission ∈ emissionsFrom tracker lines, Tracker.ArePlain emission.2 ∧
        (emission.1.role = .documentMarker → emission.2 = []) := by
  induction lines generalizing tracker with
  | nil => exact ⟨alike, (List.append_nil _).symm, rfl, List.forall_mem_nil _⟩
  | cons token rest ih =>
      obtain ⟨isClassified, restClassified⟩ := List.forall_mem_cons.mp classified
      obtain ⟨isPlain, restPlain⟩ := List.forall_mem_cons.mp plain
      obtain ⟨added, out, arePlain, noLines⟩ := alike.push_emits isClassified isPlain
      obtain ⟨stillAlike, restOut, restTokens, restEmissions⟩ :=
        ih (alike.push_self isClassified isPlain) restClassified restPlain
      have isAdded : (tracker.push token).out.drop tracker.out.length = added := by
        rw [out, List.drop_left]
      refine ⟨stillAlike, ?_, congrArg (token :: ·) restTokens, ?_⟩
      · rw [List.foldl_cons, restOut, out, emissionsFrom, List.flatMap_cons, isAdded,
          List.append_assoc]
      · rw [emissionsFrom, isAdded]
        exact List.forall_mem_cons.mpr ⟨⟨arePlain, noLines⟩, restEmissions⟩

/-- Emissions without a document marker are kept apart where one side of each is empty. -/
theorem keepsApart_iff {emissions : List (LineToken × List Text)}
    (noMarker : ∀ emission ∈ emissions, ∀ line ∈ emission.2, ¬ IsMarkerLine line) :
    KeepsApart emissions ↔ ∀ above marker below, emissions = above ++ marker :: below →
      IsMarkerLine marker.1.content →
        above.flatMap (·.2) = [] ∨ below.flatMap (·.2) = [] := by
  constructor
  · intro apart above marker below split isMarker
    by_contra written
    obtain ⟨hasAbove, hasBelow⟩ := not_or.mp written
    obtain ⟨first, behind, isAbove⟩ := List.exists_cons_of_ne_nil hasAbove
    obtain ⟨second, after, isBelow⟩ := List.exists_cons_of_ne_nil hasBelow
    obtain ⟨line, member, lineIsMarker⟩ :=
      apart above marker below split isMarker [] first behind [] second after isAbove isBelow
    have isWritten : line ∈ emissions.flatMap (·.2) := by
      rw [split, List.flatMap_append, List.flatMap_cons, isAbove]
      rw [List.append_nil] at member
      rcases List.mem_append.mp member with isBehind | isMarkers
      · exact List.mem_append_left _ (List.mem_cons_of_mem _ isBehind)
      · exact List.mem_append_right _ (List.mem_append_left _ isMarkers)
    obtain ⟨emission, isEmission, isLine⟩ := List.mem_flatMap.mp isWritten
    exact noMarker emission isEmission line isLine lineIsMarker
  · rintro oneSide above marker below split isMarker before first behind ahead second after isAbove
      isBelow
    rcases oneSide above marker below split isMarker with empty | empty
    · rw [empty] at isAbove
      cases before <;> cases isAbove
    · rw [empty] at isBelow
      cases ahead <;> cases isBelow

/-- A line of a text is of no script if the significant lines are. -/
theorem isPlain_of_mem_tokens {mode : RebuildMode} {kind : FileKind} {text : Text}
    (plain : ∀ line ∈ Line.significant text, (LineFacts.ofLine line).IsPlain) {token : LineToken}
    (member : token ∈ tokens mode kind text) (notBlank : token.role ≠ .blank)
    (notComment : token.role ≠ .comment) : token.IsPlain := by
  have classified := classified_of_mem member
  have isLine : token.line ∈ Line.ofText text := by
    rw [← tokens_lines mode kind text]
    exact List.mem_map_of_mem member
  have significant : token.line.isSignificant = true := by
    have hasContent : token.line.content ≠ [] := mt classified.role_eq_blank_iff.mpr notBlank
    have noSign : token.line.content.head? ≠ some '#' :=
      mt classified.role_eq_comment_iff.mpr notComment
    simp [Line.isSignificant, hasContent, noSign]
  rw [classified.facts_eq]
  exact plain _ (List.mem_filter.mpr ⟨isLine, significant⟩)

end Rebuild

open Rebuild

/-- **Documents of a full rebuild.** A text without scripts and block scalars is rebuilt in the
canonical mode to a document marker and the lines that are written for its lines, one after the
other. Those written for lines on different sides of a document marker are kept apart exactly if
there are none on one side of each. -/
theorem rebuild_documents (kind : FileKind) {text : Text}
    (plain : ∀ line ∈ Line.significant text, (LineFacts.ofLine line).IsPlain) :
    (emissions kind text).map (·.1) = tokens .canonical kind text ∧
    Text.pieces '\n' (rebuild .canonical kind text).text =
      "---".toList :: (emissions kind text).flatMap (·.2) ++ [[]] ∧
    (KeepsApart (emissions kind text) ↔ ∀ above marker below,
      emissions kind text = above ++ marker :: below → IsMarkerLine marker.1.content →
        above.flatMap (·.2) = [] ∨ below.flatMap (·.2) = []) := by
  obtain ⟨alike, out, areTokens, arePlain⟩ :=
    emissionsFrom_spec (Tracker.alike_start kind) (fun _ => classified_of_mem)
      fun _ => isPlain_of_mem_tokens plain
  refine ⟨areTokens, ?_, keepsApart_iff fun emission member line isLine =>
    ((arePlain emission member).1 line isLine).2⟩
  have notEmpty : ∀ line ∈ "---".toList :: (emissions kind text).flatMap (·.2), line ≠ [] := by
    refine List.forall_mem_cons.mpr ⟨by decide, fun line member => ?_⟩
    obtain ⟨emission, isEmission, isLine⟩ := List.mem_flatMap.mp member
    exact ((arePlain emission isEmission).1 line isLine).1
  have written : (trackerAfter .canonical kind (tokens .canonical kind text)).out =
      "---".toList :: (emissions kind text).flatMap (·.2) := out
  have ran : (trackerAfter .canonical kind (tokens .canonical kind text)).Alike
      (trackerAfter .canonical kind (tokens .canonical kind text)) := alike
  rw [pieces_rebuild]
  generalize trackerAfter .canonical kind (tokens .canonical kind text) = tracker at written ran
  have finished : tracker.finishedLines = "---".toList :: (emissions kind text).flatMap (·.2) := by
    unfold Tracker.finishedLines
    rw [Tracker.flushShell_of_none ran.shell.1, ran.mode.1, written,
      Tracker.dropTrailingEmpty_eq_self notEmpty]
    rfl
  rw [finished]

/-- A play before a document marker and a comment behind it are kept apart, since nothing is written
for the comment. -/
theorem rebuild_documents_play :
    let text := "---\n- hosts: all\n  tasks:\n    - ping:\n---\n# end\n".toList
    (∀ line ∈ Line.significant text, (LineFacts.ofLine line).IsPlain) ∧
    Text.pieces '\n' (rebuild .canonical .playbook text).text =
      "---".toList :: (emissions .playbook text).flatMap (·.2) ++ [[]] ∧
    KeepsApart (emissions .playbook text) := by
  intro text
  have plain : ∀ line ∈ Line.significant text, (LineFacts.ofLine line).IsPlain := by
    decide +kernel
  obtain ⟨_, written, apart⟩ := rebuild_documents .playbook plain
  exact ⟨plain, written, apart.mpr (forall_split (by decide +kernel))⟩

/-- Two documents are merged into one mapping. -/
theorem rebuild_documents_merged :
    let text := "a: 1\n---\nb: 2\n".toList
    (∀ line ∈ Line.significant text, (LineFacts.ofLine line).IsPlain) ∧
    Text.pieces '\n' (rebuild .canonical .unknown text).text =
      ["---".toList, "a: 1".toList, "b: 2".toList, []] ∧
    ¬ KeepsApart (emissions .unknown text) := by
  intro text
  have plain : ∀ line ∈ Line.significant text, (LineFacts.ofLine line).IsPlain := by
    decide +kernel
  refine ⟨plain, by decide +kernel, fun apart => ?_⟩
  obtain ⟨first, marker, second, shape⟩ :
      ∃ first marker second, emissions .unknown text = [first, marker, second] :=
    List.length_eq_three.mp (by decide +kernel)
  have contents : (emissions .unknown text).map (·.1.content) =
      ["a: 1".toList, "---".toList, "b: 2".toList] := by
    decide +kernel
  have written : (emissions .unknown text).map (·.2) = [["a: 1".toList], [], ["b: 2".toList]] := by
    decide +kernel
  rw [shape] at contents written
  simp only [List.map_cons, List.map_nil, List.cons.injEq, and_true] at contents written
  obtain ⟨line, member, _⟩ := apart [first] marker [second] shape (.inl contents.2.1)
    [] "a: 1".toList [] [] "b: 2".toList [] (by simp [written.1]) (by simp [written.2.2])
  rw [written.2.1] at member
  cases member

end PlaybookRepair
