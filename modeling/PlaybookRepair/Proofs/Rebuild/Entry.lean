import PlaybookRepair.Proofs.KeyedLine
import PlaybookRepair.Proofs.Rebuild.Account

/-!
# Lines and their origins

Every line of a rebuilt document has an origin: a line of the source, or one of a few reasons for
which a line is added (`Origin`). An entry is a line with its origin, and it is sound if the line is
what the origin says. The pieces of an account are made of sound entries which hold the same lines
of the source.
-/

namespace PlaybookRepair

open InlineValue (stripQuotes quoteMapping)
open Text (IsLine isLine_append isLine_cons isLine_nil isLine_replicate_space)

/-- Where a line of a rebuilt document comes from. -/
inductive Origin
  /-- It stands for a line of the source. -/
  | source (token : LineToken)
  /-- It is the marker at the start of the document. -/
  | marker
  /-- It is the key of a list of tasks that the source lacks. -/
  | supplied
  /-- It is the key of a script that opens on a line of the script. -/
  | header (fragment : LineToken)
  /-- It is the inline command of a key whose script goes on below. -/
  | seed (key : LineToken)
  | blank

namespace Origin

/-- The line of the source for which a line stands. -/
def source? : Origin → Option LineToken
  | source token => some token
  | _ => none

/-- The key whose inline command a line is. -/
def seed? : Origin → Option LineToken
  | seed key => some key
  | _ => none

/-- The line of a script above which a line is the key. -/
def header? : Origin → Option LineToken
  | header fragment => some fragment
  | _ => none

end Origin

/-- A line of a rebuilt document with its origin. -/
structure Entry where
  origin : Origin
  text : Text

/-- The line is what its origin says. -/
def Entry.Sound (entry : Entry) : Prop :=
  match entry.origin with
  | .source token => token.WrittenAs entry.text
  | .marker => entry.text = "---".toList
  | .supplied => entry.text = Tracker.suppliedTasks
  | .header fragment => fragment.IsFragment ∧ ∃ margin marker,
      (marker = [] ∨ marker = "- ".toList) ∧
      entry.text = List.replicate margin ' ' ++ marker ++ "shell: |".toList
  | .seed key => key.IsShellKey ∧ ∃ value column,
      (ShellBlock.ofModule key).inline = some value ∧
      entry.text = indented column (stripQuotes value)
  | .blank => entry.text = []

/-! ## The entries of a piece -/

namespace Piece

/-- The lines of a piece with their origins. -/
def entries (mode : RebuildMode) : Piece → List Entry
  | line token text => [⟨.source token, text⟩]
  | supplied => [⟨.supplied, Tracker.suppliedTasks⟩]
  | empty => [⟨.blank, []⟩]
  | script opener lines block column dashed =>
    let placement : Placement := { start := 0, length := 0, depth := column, dashed }
    let header := if opener.role = .moduleInvocation then .source opener else .header opener
    ⟨header, block.headerLine placement⟩ ::
      ((block.seedLines placement).map fun line => ⟨.seed opener, line⟩) ++
      lines.map fun entry =>
        ⟨entry.elim .blank .source, block.writtenEntry mode placement entry⟩

theorem entries_texts (mode : RebuildMode) {piece : Piece} (sound : piece.Sound) :
    (piece.entries mode).map Entry.text = piece.texts mode := by
  cases piece with
  | line token text => rfl
  | supplied => rfl
  | empty => rfl
  | script opener lines block column dashed =>
      rw [texts, ShellBlock.shellLines_eq sound.1]
      simp [entries, Function.comp_def]

theorem filterMap_entries_script {β : Type} (select : Origin → Option β) (mode : RebuildMode)
    (opener : LineToken) (lines : List (Option LineToken)) (block : ShellBlock) (column : Nat)
    (dashed : Bool) :
    ((script opener lines block column dashed).entries mode).filterMap (select ·.origin) =
      (select (if opener.role = .moduleInvocation then .source opener
        else .header opener)).toList ++
      (block.seedLines { start := 0, length := 0, depth := column, dashed }).filterMap
        (fun _ => select (.seed opener)) ++
      lines.filterMap fun entry => select (entry.elim .blank .source) := by
  simp only [entries, List.filterMap_append, List.filterMap_map, List.filterMap_cons,
    Function.comp_def]
  cases select (if opener.role = .moduleInvocation then .source opener else .header opener) <;> rfl

theorem filterMap_elim (lines : List (Option LineToken)) :
    lines.filterMap (fun entry => (entry.elim Origin.blank .source).source?) =
      lines.reduceOption := by
  have same : (fun entry : Option LineToken => (entry.elim Origin.blank .source).source?) = id := by
    funext entry
    cases entry <;> rfl
  rw [same]
  rfl

theorem entries_sources (mode : RebuildMode) (piece : Piece) :
    (piece.entries mode).filterMap (·.origin.source?) = piece.sources := by
  cases piece with
  | line token text => rfl
  | supplied => rfl
  | empty => rfl
  | script opener lines block column dashed =>
      rw [filterMap_entries_script Origin.source?, filterMap_elim, sources]
      by_cases isKey : opener.role = .moduleInvocation
      · rw [if_pos isKey, if_pos isKey]
        simp [Origin.source?]
      · rw [if_neg isKey, if_neg isKey]
        simp [Origin.source?]

theorem filterMap_elim_of_none {β : Type} {select : Origin → Option β}
    (blank : select .blank = none) (source : ∀ token, select (.source token) = none)
    (lines : List (Option LineToken)) :
    lines.filterMap (fun entry => select (entry.elim .blank .source)) = [] := by
  refine List.filterMap_eq_nil_iff.mpr fun entry _ => ?_
  cases entry with
  | none => exact blank
  | some token => exact source token

/-- Inline commands below their keys stand for keys that the piece holds, each for another one. -/
theorem entries_seeds (mode : RebuildMode) {piece : Piece} (sound : piece.Sound) :
    ((piece.entries mode).filterMap (·.origin.seed?)).Sublist piece.sources := by
  cases piece with
  | line token text => exact List.nil_sublist _
  | supplied => exact .slnil
  | empty => exact .slnil
  | script opener lines block column dashed =>
      rw [filterMap_entries_script Origin.seed?,
        filterMap_elim_of_none rfl (fun _ => rfl), List.append_nil, sources]
      have noHeader : Origin.seed? (if opener.role = .moduleInvocation then .source opener
          else .header opener) = none := by
        split <;> rfl
      rw [noHeader, Option.toList_none, List.nil_append]
      rcases sound.1.header with ⟨isKey, _⟩ | ⟨isFragment, same, _⟩
      · rw [if_pos isKey.1]
        refine .trans ?_ (List.sublist_append_left ..)
        unfold ShellBlock.seedLines
        split
        · exact List.nil_sublist _
        · cases block.inline <;> simp [Origin.seed?]
      · have noSeed : block.inline = none := same.inline
        rw [ShellBlock.seedLines, noSeed]
        simp

/-- The keys of scripts that open on one of their lines stand above lines that the piece holds. -/
theorem entries_headers (mode : RebuildMode) {piece : Piece} (sound : piece.Sound) :
    ((piece.entries mode).filterMap (·.origin.header?)).Sublist piece.sources := by
  cases piece with
  | line token text => exact List.nil_sublist _
  | supplied => exact .slnil
  | empty => exact .slnil
  | script opener lines block column dashed =>
      rw [filterMap_entries_script Origin.header?,
        filterMap_elim_of_none rfl (fun _ => rfl), List.append_nil, sources]
      simp only [Origin.header?, List.filterMap_none, List.append_nil]
      rcases sound.1.header with ⟨isKey, _⟩ | ⟨isFragment, _, first⟩
      · rw [if_pos isKey.1]
        exact List.nil_sublist _
      · rw [if_neg isFragment.role_ne, if_neg isFragment.role_ne]
        obtain ⟨rest, rfl⟩ := List.head?_eq_some_iff.mp first
        simp [List.reduceOption_cons_of_some]

section

variable {block : ShellBlock} {opener : LineToken} {lines : List (Option LineToken)}

/-- The key of a script stands for the line on which the script has opened, if that is a key. -/
theorem header_sound (gathered : block.Gathered opener lines) {placement : Placement}
    (aligned : placement.dashed → placement.depth = taskKeyColumn) :
    Entry.Sound ⟨if opener.role = .moduleInvocation then .source opener else .header opener,
      block.headerLine placement⟩ := by
  rcases gathered.header with ⟨isKey, same⟩ | ⟨isFragment, same, first⟩
  · rw [if_pos isKey.1]
    change opener.WrittenAs (block.headerLine placement)
    unfold ShellBlock.headerLine
    split
    · rw [indented_listItemText]
      exact .itemHeader _ block isKey same
    · rw [indented_of_ne_nil _ block.headerText_ne_nil]
      exact .header _ block isKey same
  · rw [if_neg isFragment.role_ne]
    obtain ⟨margin, marker, written, isMarker, _⟩ := block.headerLine_eq aligned
    have explicit : block.explicit = false := same.explicit
    have key : block.key = "shell".toList := same.key
    have indicator : block.indicator = "|".toList := same.indicator
    have hasBody : block.body.isEmpty = false := by
      obtain ⟨rest, rfl⟩ := List.head?_eq_some_iff.mp first
      exact gathered.body_isEmpty
    have text : block.headerText = "shell: |".toList := by
      rw [ShellBlock.headerText, explicit, key, indicator, hasBody]
      rfl
    exact ⟨isFragment, margin, marker, isMarker, written.trans (by rw [text])⟩

/-- The inline command below a key is that of the key. -/
theorem seed_sound (gathered : block.Gathered opener lines) {placement : Placement} {line : Text}
    (member : line ∈ block.seedLines placement) : Entry.Sound ⟨.seed opener, line⟩ := by
  unfold ShellBlock.seedLines at member
  split at member
  · cases member
  · obtain ⟨value, isInline, rfl⟩ := List.mem_map.mp member
    have inline : block.inline = some value := Option.mem_toList.mp isInline
    rcases gathered.header with ⟨isKey, same⟩ | ⟨_, same, _⟩
    · exact ⟨isKey, value, _, same.inline ▸ inline, rfl⟩
    · rw [same.inline] at inline
      cases inline

end

theorem entries_sound (mode : RebuildMode) {piece : Piece} (sound : piece.Sound) :
    ∀ entry ∈ piece.entries mode, entry.Sound := by
  intro entry member
  cases piece with
  | line token text =>
      rw [List.mem_singleton.mp member]
      exact sound
  | supplied =>
      rw [List.mem_singleton.mp member]
      rfl
  | empty =>
      rw [List.mem_singleton.mp member]
      rfl
  | script opener lines block column dashed =>
      obtain ⟨gathered, aligned⟩ := sound
      rcases List.mem_append.mp member with above | below
      · rcases List.mem_cons.mp above with rfl | isSeed
        · exact header_sound gathered aligned
        · obtain ⟨line, isLine, rfl⟩ := List.mem_map.mp isSeed
          exact seed_sound gathered isLine
      · obtain ⟨line, isLine, rfl⟩ := List.mem_map.mp below
        cases line with
        | none => rfl
        | some token =>
            have hasContent : token.content ≠ [] := gathered.contents token
              (List.reduceOption_mem_iff.mpr isLine)
            change token.WrittenAs (block.writtenEntry mode _ (some token))
            rw [ShellBlock.writtenEntry_some hasContent]
            exact .content _

end Piece

/-! ## Written lines take up one line -/

theorem isLine_listItemText {text : Text} (isLine : text.IsLine) : (listItemText text).IsLine :=
  isLine_cons.mpr ⟨by decide, isLine_cons.mpr ⟨by decide, isLine⟩⟩

theorem isLine_scriptKey {key : Text} (isLine : key.IsLine) :
    (ShellBlock.scriptKey key).IsLine := by
  have collection (count : Nat) : IsLine (key.take count) := isLine.of_subset (List.take_subset _ _)
  unfold ShellBlock.scriptKey
  dsimp only
  split
  · exact isLine_append.mpr ⟨collection _, by decide⟩
  · split
    · exact isLine_append.mpr ⟨collection _, by decide⟩
    · exact isLine

namespace LineToken.Classified

variable {token : LineToken} (classified : token.Classified) (isLine : token.line.raw.IsLine)
include isLine

theorem isLine_content : token.content.IsLine :=
  isLine.of_subset fun _ member => Text.mem_of_mem_trim member

include classified

theorem isLine_body : token.body.IsLine := by
  rw [classified.facts_eq]
  exact (isLine_content isLine).of_subset (LineFacts.body_subset token.line)

theorem isLine_key {key : Text} (found : token.key = some key) : key.IsLine := by
  rw [classified.facts_eq] at found
  exact (isLine_content isLine).of_subset ((LineFacts.key_value_subset token.line).1 key found)

theorem isLine_value : token.value.IsLine := by
  rw [classified.facts_eq]
  exact (isLine_content isLine).of_subset (LineFacts.key_value_subset token.line).2

theorem isLine_getD_key {other : Text} (isOther : other.IsLine) :
    (token.key.getD other).IsLine := by
  cases found : token.key with
  | none => exact isOther
  | some key => exact classified.isLine_key isLine found

theorem isLine_keyedText : token.keyedText.IsLine := by
  have key : (token.key.getD []).IsLine := classified.isLine_getD_key isLine isLine_nil
  unfold keyedText
  dsimp only
  split
  · exact isLine_append.mpr ⟨key, by decide⟩
  · exact isLine_append.mpr ⟨isLine_append.mpr ⟨key, by decide⟩,
      InlineValue.isLine_quoteMapping (classified.isLine_value isLine)⟩

theorem isLine_nestedText : token.nestedText.IsLine := by
  unfold nestedText
  split
  · exact isLine_listItemText (classified.isLine_keyedText isLine)
  · split
    · decide
    · exact isLine_listItemText (InlineValue.isLine_quoteTemplate (classified.isLine_body isLine))
  · exact classified.isLine_keyedText isLine
  · exact isLine_content isLine

/-- The inline command of a key is the value of the key. -/
theorem isLine_inline {value : Text} (inline : (ShellBlock.ofModule token).inline = some value) :
    value.IsLine := by
  simp only [ShellBlock.ofModule] at inline
  split at inline
  · cases inline
  · cases inline
    exact classified.isLine_value isLine

theorem isLine_headerText {block : ShellBlock} (same : block.SameHeader (.ofModule token)) :
    block.headerText.IsLine := by
  have key : block.key.IsLine := by
    rw [same.key]
    exact classified.isLine_getD_key isLine (by decide)
  have indicator : block.indicator.IsLine := by
    rw [same.indicator]
    simp only [ShellBlock.ofModule]
    split
    · exact (classified.isLine_value isLine).of_subset (InlineValue.withoutComment_subset _)
    · decide
  unfold ShellBlock.headerText
  split
  · unfold ShellBlock.keyLine
    split
    · next value inline =>
        rw [same.inline] at inline
        exact isLine_append.mpr ⟨isLine_append.mpr ⟨key, by decide⟩,
          InlineValue.isLine_quoteMapping (classified.isLine_inline isLine inline)⟩
    · exact isLine_append.mpr ⟨key, by decide⟩
  · refine isLine_append.mpr ⟨isLine_append.mpr ⟨?_, by decide⟩, indicator⟩
    split
    · exact key
    · exact isLine_scriptKey key

/-- A line of the source is written in one line. -/
theorem isLine_of_writtenAs {text : Text} (written : token.WrittenAs text) : text.IsLine := by
  cases written with
  | content column =>
      exact isLine_append.mpr ⟨isLine_replicate_space column, isLine_content isLine⟩
  | nested column =>
      exact isLine_append.mpr ⟨isLine_replicate_space column, classified.isLine_nestedText isLine⟩
  | keyed column =>
      exact isLine_append.mpr ⟨isLine_replicate_space column, classified.isLine_keyedText isLine⟩
  | item column =>
      exact isLine_append.mpr
        ⟨isLine_replicate_space column, isLine_listItemText (classified.isLine_keyedText isLine)⟩
  | header column block isKey same =>
      exact isLine_append.mpr
        ⟨isLine_replicate_space column, classified.isLine_headerText isLine same⟩
  | itemHeader column block isKey same =>
      exact isLine_append.mpr
        ⟨isLine_replicate_space column, isLine_listItemText (classified.isLine_headerText isLine same)⟩
  | copied => exact isLine.of_subset fun _ member => Text.mem_of_mem_trimEnd member

end LineToken.Classified

theorem isLine_indented {text : Text} (isLine : text.IsLine) (column : Nat) :
    (indented column text).IsLine := by
  unfold indented
  split
  · exact isLine
  · exact isLine_append.mpr ⟨isLine_replicate_space column, isLine⟩

/-- A sound entry takes up one line if the lines of the source do. -/
theorem Entry.Sound.isLine {entry : Entry} (sound : entry.Sound)
    (source : ∀ token, entry.origin.source? = some token ∨ entry.origin.seed? = some token →
      token.Classified ∧ token.line.raw.IsLine) : entry.text.IsLine := by
  obtain ⟨origin, text⟩ := entry
  cases origin with
  | source token =>
      obtain ⟨classified, isLine⟩ := source token (.inl rfl)
      exact classified.isLine_of_writtenAs isLine sound
  | marker =>
      obtain rfl : text = _ := sound
      decide
  | supplied =>
      obtain rfl : text = _ := sound
      decide
  | header fragment =>
      obtain ⟨_, margin, marker, isMarker, rfl⟩ := sound
      have isLine : IsLine marker := by
        rcases isMarker with rfl | rfl <;> decide
      exact isLine_append.mpr
        ⟨isLine_append.mpr ⟨isLine_replicate_space margin, isLine⟩, by decide⟩
  | seed key =>
      obtain ⟨classified, isLine⟩ := source key (.inr rfl)
      obtain ⟨_, value, column, inline, rfl⟩ := sound
      exact isLine_indented ((classified.isLine_inline isLine inline).of_subset
        (InlineValue.stripQuotes_subset value)) column
  | blank =>
      obtain rfl : text = _ := sound
      exact isLine_nil

/-- A line that stands for a line with content is not empty. -/
theorem LineToken.WrittenAs.ne_nil {token : LineToken} {text : Text}
    (written : token.WrittenAs text) (hasContent : token.content ≠ []) : text ≠ [] := by
  have behind {margin text : Text} (notEmpty : text ≠ []) : margin ++ text ≠ [] :=
    List.append_ne_nil_of_right_ne_nil margin notEmpty
  cases written with
  | content => exact behind hasContent
  | nested => exact behind (LineToken.nestedText_ne_nil hasContent)
  | keyed => exact behind token.keyedText_ne_nil
  | item => exact behind (List.cons_ne_nil _ _)
  | header _ block => exact behind block.headerText_ne_nil
  | itemHeader => exact behind (List.cons_ne_nil _ _)
  | copied =>
      rw [Text.trimEnd_eq hasContent]
      exact behind hasContent

end PlaybookRepair
