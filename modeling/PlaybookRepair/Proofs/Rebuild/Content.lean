import Mathlib.Data.List.Flatten
import PlaybookRepair.Proofs.Rebuild.Entry
import PlaybookRepair.Proofs.Rebuild.Ledger

/-!
# The content of a rebuilt document

Nothing is lost or invented by a rebuild. Every line of a rebuilt document has its origin, and the
lines of the source that have content are, each once, the origins of lines
(`AccountFor`, `rebuild_keeps_content`). In the canonical mode a line may be left out with
an excuse. Their order is that of the source, apart from lines that join a script above.
-/

namespace PlaybookRepair

open Rebuild

/-- Lines with their origins account for lines of the source: what every line is said to be it is,
the marker of the document comes first, each of the given lines of the source is the origin of one
line, and each key and each line of a script is the reason for one added line at most. The lines of
the source keep their order, but lines of some kind may stand above earlier ones. -/
structure AccountFor (rejoins : LineToken → Prop) (kept : List LineToken) (entries : List Entry) :
    Prop where
  sound : ∀ entry ∈ entries, entry.Sound
  marker : ∀ entry ∈ entries.tail, entry.origin ≠ .marker
  sources : (entries.filterMap (·.origin.source?)).Perm kept
  seeds : (entries.filterMap (·.origin.seed?)).Sublist (entries.filterMap (·.origin.source?))
  headers : (entries.filterMap (·.origin.header?)).Sublist (entries.filterMap (·.origin.source?))
  order : (entries.filterMap (·.origin.source?)).Pairwise fun first second =>
    first.line.number < second.line.number ∨ rejoins first

namespace Tracker

theorem dropTrailingEmpty_cons {line : Text} (notEmpty : line ≠ []) (lines : List Text) :
    dropTrailingEmpty (line :: lines) = line :: dropTrailingEmpty lines := by
  unfold dropTrailingEmpty
  rw [List.reverse_cons, List.dropWhile_append]
  split
  · next noLine =>
      have stays : List.dropWhile (·.isEmpty) [line] = [line] :=
        List.dropWhile_cons_of_neg (by simpa using notEmpty)
      rw [stays, List.isEmpty_iff.mp noLine]
      rfl
  · rw [List.reverse_append]
    rfl

/-- The lines that are dropped at the end of a document are empty. -/
theorem exists_dropTrailingEmpty (entries : List Entry) :
    ∃ body dropped, entries = body ++ dropped ∧
      dropTrailingEmpty (entries.map Entry.text) = body.map Entry.text ∧
      ∀ entry ∈ dropped, entry.text = [] := by
  refine ⟨(entries.reverse.dropWhile (·.text.isEmpty)).reverse,
    (entries.reverse.takeWhile (·.text.isEmpty)).reverse, ?_, ?_, ?_⟩
  · rw [← List.reverse_append, List.takeWhile_append_dropWhile, List.reverse_reverse]
  · rw [dropTrailingEmpty, ← List.map_reverse, List.dropWhile_map, ← List.map_reverse]
    rfl
  · intro entry member
    have isEmpty := List.mem_takeWhile_imp (List.mem_reverse.mp member)
    exact List.isEmpty_iff.mp isEmpty

/-- The finished lines of a document start with a marker, which is the document's own or a new
one, and leave out empty lines at the end. -/
theorem exists_finishedLines {tracker : Tracker} {entries : List Entry}
    (out : tracker.flushShell.out = leading tracker.mode ++ entries.map Entry.text) :
    ∃ top body dropped, entries = body ++ dropped ∧ (∀ entry ∈ dropped, entry.text = []) ∧
      (top = [] ∨ top = [⟨.marker, "---".toList⟩]) ∧ top ++ body ≠ [] ∧
      tracker.finishedLines = (top ++ body).map Entry.text := by
  obtain ⟨body, dropped, split, shorter, areEmpty⟩ := exists_dropTrailingEmpty entries
  cases mode : tracker.mode with
  | canonical =>
      refine ⟨[⟨.marker, "---".toList⟩], body, dropped, split, areEmpty, .inr rfl,
        List.cons_ne_nil _ _, ?_⟩
      have lines : dropTrailingEmpty tracker.flushShell.out =
          "---".toList :: body.map Entry.text := by
        rw [out, mode, ← shorter, ← dropTrailingEmpty_cons (by decide)]
        rfl
      rw [finishedLines, mode, lines]
      rfl
  | incremental =>
      have lines : dropTrailingEmpty tracker.flushShell.out = body.map Entry.text := by
        rw [out, mode, ← shorter]
        rfl
      by_cases marked : startsWithMarker (body.map Entry.text)
      · refine ⟨[], body, dropped, split, areEmpty, .inl rfl, ?_, ?_⟩
        · rintro rfl
          cases marked
        · simp only [finishedLines, mode, lines, marked]
          rfl
      · refine ⟨[⟨.marker, "---".toList⟩], body, dropped, split, areEmpty, .inr rfl,
          List.cons_ne_nil _ _, ?_⟩
        simp only [finishedLines, mode, lines, marked]
        rfl

end Tracker

theorem Piece.entries_ne_marker {mode : RebuildMode} {piece : Piece} :
    ∀ entry ∈ piece.entries mode, entry.origin ≠ .marker := by
  intro entry member
  cases piece with
  | line token text =>
      rw [List.mem_singleton.mp member]
      nofun
  | supplied =>
      rw [List.mem_singleton.mp member]
      nofun
  | empty =>
      rw [List.mem_singleton.mp member]
      nofun
  | script opener lines block column dashed =>
      rcases List.mem_append.mp member with above | below
      · rcases List.mem_cons.mp above with rfl | isSeed
        · dsimp only
          split <;> nofun
        · obtain ⟨line, _, rfl⟩ := List.mem_map.mp isSeed
          nofun
      · obtain ⟨line, _, rfl⟩ := List.mem_map.mp below
        cases line <;> nofun

section

variable {rejoins : LineToken → Prop} {kept : List LineToken} {entries body dropped : List Entry}

/-- The entries of the pieces of an account are an account, without the marker of the document. -/
theorem Account.accountFor {pieces : List Piece} (account : Account rejoins pieces kept)
    (mode : RebuildMode) :
    AccountFor rejoins kept (pieces.flatMap (Piece.entries mode)) ∧
      ∀ entry ∈ pieces.flatMap (Piece.entries mode), entry.origin ≠ .marker := by
  have noMarker : ∀ entry ∈ pieces.flatMap (Piece.entries mode), entry.origin ≠ .marker := by
    intro entry member
    obtain ⟨piece, _, isPart⟩ := List.mem_flatMap.mp member
    exact Piece.entries_ne_marker entry isPart
  have sources : (pieces.flatMap (Piece.entries mode)).filterMap (·.origin.source?) =
      pieces.flatMap Piece.sources := by
    rw [List.filterMap_flatMap]
    exact List.flatMap_congr fun piece _ => piece.entries_sources mode
  refine ⟨⟨?_, fun entry member => noMarker entry (List.mem_of_mem_tail member), ?_, ?_, ?_, ?_⟩,
    noMarker⟩
  · intro entry member
    obtain ⟨piece, isPiece, isPart⟩ := List.mem_flatMap.mp member
    exact Piece.entries_sound mode (account.sound piece isPiece) entry isPart
  · rw [sources]
    exact account.sources
  · rw [sources, List.filterMap_flatMap]
    exact List.Sublist.flatMap_right _ fun piece isPiece =>
      Piece.entries_seeds mode (account.sound piece isPiece)
  · rw [sources, List.filterMap_flatMap]
    exact List.Sublist.flatMap_right _ fun piece isPiece =>
      Piece.entries_headers mode (account.sound piece isPiece)
  · rw [sources]
    exact account.order

/-- The entries of the pieces of an account are the lines of the pieces. -/
theorem Account.entries_texts {pieces : List Piece} (account : Account rejoins pieces kept)
    (mode : RebuildMode) :
    leading mode ++ (pieces.flatMap (Piece.entries mode)).map Entry.text =
      documentLines mode pieces := by
  rw [documentLines, List.map_flatMap]
  congr 1
  exact List.flatMap_congr fun piece isPiece =>
    Piece.entries_texts mode (account.sound piece isPiece)

/-- Empty lines at the end stand for no line of the source. -/
theorem AccountFor.dropEmpty (account : AccountFor rejoins kept (body ++ dropped))
    (hasContent : ∀ token ∈ kept, token.content ≠ [])
    (areEmpty : ∀ entry ∈ dropped, entry.text = []) : AccountFor rejoins kept body := by
  have noSource : dropped.filterMap (·.origin.source?) = [] := by
    refine List.filterMap_eq_nil_iff.mpr fun entry member => ?_
    cases origin : entry.origin with
    | source token =>
        have isSource : entry.origin.source? = some token := by rw [origin]; rfl
        have written : token.WrittenAs entry.text := by
          have sound := account.sound entry (List.mem_append_right _ member)
          unfold Entry.Sound at sound
          rwa [origin] at sound
        have isKept : token ∈ kept := account.sources.subset
          (List.mem_filterMap.mpr ⟨entry, List.mem_append_right _ member, isSource⟩)
        exact (written.ne_nil (hasContent token isKept) (areEmpty entry member)).elim
    | _ => rfl
  have sources : (body ++ dropped).filterMap (·.origin.source?) =
      body.filterMap (·.origin.source?) := by
    rw [List.filterMap_append, noSource, List.append_nil]
  have shorter : body.Sublist (body ++ dropped) := List.sublist_append_left ..
  refine ⟨fun entry member => account.sound entry (List.mem_append_left _ member),
    fun entry member => account.marker entry ?_, sources ▸ account.sources, ?_, ?_,
    sources ▸ account.order⟩
  · cases body with
    | nil => cases member
    | cons first rest => exact List.mem_append_left _ member
  · rw [← sources]
    exact (shorter.filterMap _).trans account.seeds
  · rw [← sources]
    exact (shorter.filterMap _).trans account.headers

/-- The marker of a document goes to its start. -/
theorem AccountFor.withMarker (account : AccountFor rejoins kept body)
    (noMarker : ∀ entry ∈ body, entry.origin ≠ .marker) :
    AccountFor rejoins kept (⟨.marker, "---".toList⟩ :: body) where
  sound := by
    intro entry member
    rcases List.mem_cons.mp member with rfl | later
    · rfl
    · exact account.sound entry later
  marker := noMarker
  sources := account.sources
  seeds := account.seeds
  headers := account.headers
  order := account.order

end

/-- Every line of an account takes up one line if the lines of the source do. -/
theorem AccountFor.isLine {rejoins : LineToken → Prop} {kept : List LineToken}
    {entries : List Entry} (account : AccountFor rejoins kept entries)
    (source : ∀ token ∈ kept, token.Classified ∧ token.line.raw.IsLine) :
    ∀ line ∈ entries.map Entry.text, line.IsLine := by
  intro line member
  obtain ⟨entry, isEntry, rfl⟩ := List.mem_map.mp member
  refine (account.sound entry isEntry).isLine fun token origin => source token ?_
  refine account.sources.subset ?_
  rcases origin with isSource | isSeed
  · exact List.mem_filterMap.mpr ⟨entry, isEntry, isSource⟩
  · exact account.seeds.subset (List.mem_filterMap.mpr ⟨entry, isEntry, isSeed⟩)

/-- The lines of a source take up one line each. -/
theorem isLine_of_mem_tokens {mode : RebuildMode} {kind : FileKind} {text : Text}
    {token : LineToken} (member : token ∈ tokens mode kind text) : token.line.raw.IsLine := by
  have isLine : token.line ∈ Line.ofText text :=
    tokens_lines mode kind text ▸ List.mem_map_of_mem member
  obtain ⟨⟨raw, number⟩, numbered, same⟩ := List.mem_map.mp isLine
  rw [← same]
  exact Text.isLine_of_mem_lines (List.fst_mem_of_mem_zipIdx numbered)

/-- **The content of a rebuilt document.** Every line of the source is classified once. The lines of
the rebuilt document account for those of them that have content: in the incremental mode for all,
in the canonical mode for all but some comments, document markers and reported lines. -/
theorem rebuild_keeps_content (mode : RebuildMode) (kind : FileKind) (text : Text) :
    let source := contentLines (tokens mode kind text)
    let result := rebuild mode kind text
    (tokens mode kind text).map (·.line) = Line.ofText text ∧
    ∃ entries kept,
      Text.pieces '\n' result.text = entries.map Entry.text ++ [[]] ∧
      AccountFor (Rejoins mode kind text) kept entries ∧
      kept.Sublist source ∧
      (mode = .incremental → kept = source) ∧
      ∀ token ∈ source, token ∈ kept ∨ token.Excused result.ambiguities := by
  intro source result
  refine ⟨tokens_lines mode kind text, ?_⟩
  obtain ⟨kept, ledger, sublist, complete, excuses⟩ :=
    ledger_run mode kind text (tokens mode kind text) [] (List.append_nil _).symm
  obtain ⟨⟨pieces, recorded, account⟩, _⟩ := ledger.flushShell
  generalize final : trackerAfter mode kind (tokens mode kind text) = tracker at *
  obtain ⟨closed, isMode, ambiguities⟩ := tracker.flushShell_state
  obtain ⟨entered, noMarker⟩ := account.accountFor tracker.mode
  have out : tracker.flushShell.out = leading tracker.mode ++
      (pieces.flatMap (Piece.entries tracker.mode)).map Entry.text := by
    rw [(recorded.of_closed closed).2.1, isMode, account.entries_texts]
  have finished : result = tracker.finish := by
    rw [← final]
    exact rebuild_eq mode kind text
  have hasContent : ∀ token ∈ kept, token.content ≠ [] := by
    intro token member
    have isContent := (List.mem_filter.mp (sublist.subset member)).2
    simpa using isContent
  have areLines : ∀ token ∈ kept, token.Classified ∧ token.line.raw.IsLine := by
    intro token member
    have isToken := List.mem_of_mem_filter (sublist.subset member)
    exact ⟨classified_of_mem isToken, isLine_of_mem_tokens isToken⟩
  obtain ⟨top, body, dropped, split, areEmpty, isTop, notEmpty, lines⟩ :=
    Tracker.exists_finishedLines out
  rw [split] at entered noMarker
  have shorter := entered.dropEmpty hasContent areEmpty
  have accounts : AccountFor (Rejoins mode kind text) kept (top ++ body) := by
    rcases isTop with rfl | rfl
    · exact shorter
    · exact shorter.withMarker fun entry member => noMarker entry (List.mem_append_left _ member)
  refine ⟨top ++ body, kept, ?_, accounts, sublist, complete, ?_⟩
  · rw [finished]
    change Text.pieces '\n' (Tracker.joinLines tracker.finishedLines) = _
    rw [lines]
    exact Text.pieces_joinLines (by simpa using notEmpty) (accounts.isLine areLines)
  · rw [finished]
    change ∀ token ∈ source, token ∈ kept ∨ token.Excused tracker.flushShell.ambiguities
    rw [ambiguities]
    exact excuses

/-- The margin of a comment is kept even if it is no run of spaces. A comment behind a tab is written
behind the tab again, so no line of the document is the comment behind spaces. -/
theorem rebuild_keeps_margin :
    let text := "\t# x\n".toList
    let lines := Text.pieces '\n' (rebuild .incremental .unknown text).text
    lines = ["---".toList, "\t# x".toList, []] ∧
    ∃ token, contentLines (tokens .incremental .unknown text) = [token] ∧ ¬ token.IsShellKey ∧
      ∀ line ∈ lines, ∀ column marker form, (marker = [] ∨ marker = "- ".toList) →
        (form = token.content ∨ form = token.nestedText ∨ form = token.keyedText) →
        line ≠ List.replicate column ' ' ++ marker ++ form := by
  intro text lines
  have written : lines = ["---".toList, "\t# x".toList, []] := by decide +kernel
  refine ⟨written, .classify ⟨1, "\t# x".toList⟩ { useIndent := true }, by decide +kernel, ?_, ?_⟩
  · rintro ⟨isKey, _⟩
    exact absurd isKey (by decide +kernel)
  · intro line member column marker form isMarker isForm same
    have forms : form = "# x".toList ∨ form = ":".toList := by
      rcases isForm with rfl | rfl | rfl
      · exact .inl (by decide +kernel)
      · exact .inl (by decide +kernel)
      · exact .inr (by decide +kernel)
    rw [written] at member
    simp only [List.mem_cons, List.not_mem_nil, or_false] at member
    -- The first two characters tell the lines apart.
    rcases member with rfl | rfl | rfl <;> rcases isMarker with rfl | rfl <;>
      rcases forms with rfl | rfl <;> cases column <;> simp [List.replicate_succ] at same

end PlaybookRepair
