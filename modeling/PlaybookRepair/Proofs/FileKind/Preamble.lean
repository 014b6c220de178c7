import PlaybookRepair.FileKind.Detection
import PlaybookRepair.Proofs.Role
import PlaybookRepair.Proofs.Text.Lines

/-!
# Preambles

A text may start with lines that belong to no value: blank lines, comments and document markers.
None of them has a key or is a list item, so put before a text they tell no other kind of file. But
the search for the first line with content passes over a document marker only if nothing follows
its hyphens. Behind a marker with a remark a list item is therefore not found any more, and a task
list that only its first item tells is taken for a file of unknown kind (`detect_preamble_iff`).
-/

namespace PlaybookRepair

/-! ## Lines of a preamble -/

/-- Whether a line of the role can stand in a preamble. -/
def Role.isPreamble : Role → Bool
  | blank | comment | documentMarker => true
  | _ => false

/-- A line of a preamble in some surroundings. -/
def IsPreambleLine (line : Text) : Prop :=
  ∃ number around, (LineToken.classify ⟨number, line⟩ around).role.isPreamble

/-- A document marker with a remark: something stands behind its hyphens. -/
def IsRemarkedMarker (line : Text) : Prop := "--- ".toList <+: Text.trim line

instance (line : Text) : Decidable (IsRemarkedMarker line) :=
  inferInstanceAs (Decidable ("--- ".toList <+: Text.trim line))

/-- The three kinds of lines in a preamble, by their contents. -/
theorem IsPreambleLine.content {line : Text} (isPreamble : IsPreambleLine line) :
    Text.trim line = [] ∨ (Text.trim line).head? = some '#' ∨ Text.trim line = "---".toList ∨
      IsRemarkedMarker line := by
  obtain ⟨number, around, isPreamble⟩ := isPreamble
  have fits := Role.ofFacts_fits (.ofLine ⟨number, line⟩) around
  change (Role.ofFacts (.ofLine ⟨number, line⟩) around).isPreamble = true at isPreamble
  generalize Role.ofFacts (.ofLine ⟨number, line⟩) around = role at fits isPreamble
  cases role with
  | blank => exact .inl fits
  | comment => exact .inr (.inl fits)
  | documentMarker =>
    exact fits.elim (fun bare => .inr (.inr (.inl bare)))
      fun remark => .inr (.inr (.inr (List.isPrefixOf_iff_prefix.mp remark)))
  | _ => cases isPreamble

/-- A content that starts with two hyphens is no list item and has no key. -/
theorem LineFacts.ofLine_of_hyphens {line : Line} {rest : Text}
    (hyphens : line.content = '-' :: '-' :: rest) :
    (LineFacts.ofLine line).dashed = false ∧ (LineFacts.ofLine line).key = none := by
  have notDashed : isDashed line.content = false := by
    rw [hyphens]
    rfl
  have noKey : KeyedLine.splitKeyValue? line.content = none := by
    rw [hyphens]
    rfl
  simp only [ofLine, notDashed, Bool.false_eq_true, ↓reduceIte, noKey, Option.map_none, and_self]

theorem IsRemarkedMarker.exists_cons {line : Text} (remarked : IsRemarkedMarker line) :
    ∃ rest, Text.trim line = '-' :: '-' :: '-' :: ' ' :: rest := by
  obtain ⟨rest, same⟩ := remarked
  exact ⟨rest, same.symm⟩

/-- A line of a preamble is no list item and has no key. -/
theorem IsPreambleLine.facts {line : Text} (isPreamble : IsPreambleLine line) (number : Nat) :
    (LineFacts.ofLine ⟨number, line⟩).dashed = false ∧
      (LineFacts.ofLine ⟨number, line⟩).key = none := by
  obtain empty | sign | bare | remarked := isPreamble.content
  · simp [LineFacts.ofLine, Line.content, empty, LineFacts.isDashed, KeyedLine.splitKeyValue?,
      KeyedLine.splitKey?]
  · obtain ⟨rest, content⟩ := List.head?_eq_some_iff.mp sign
    have noKey : KeyedLine.splitKeyValue? ('#' :: rest) = none := rfl
    simp [LineFacts.ofLine, Line.content, content, LineFacts.isDashed, noKey, List.isPrefixOf]
  · exact LineFacts.ofLine_of_hyphens bare
  · obtain ⟨rest, content⟩ := remarked.exists_cons
    exact LineFacts.ofLine_of_hyphens content

/-! ## Lines put before a text -/

namespace Text

/-- Blanks behind a text are trimmed off. -/
theorem trim_append_blanks {blanks : Text} (areBlank : ∀ c ∈ blanks, isBlank c) (text : Text) :
    trim (text ++ blanks) = trim text := by
  have none : trimStart blanks = [] := List.dropWhile_eq_nil_iff.mpr areBlank
  have fromEnd (part : Text) : trimEnd (part ++ blanks) = trimEnd part := by
    rw [trimEnd, List.reverse_append, List.dropWhile_append_of_pos fun c member =>
      areBlank c (List.mem_reverse.mp member), trimEnd]
  unfold trim
  by_cases allBlank : trimStart text = []
  · have start : trimStart (text ++ blanks) = trimStart blanks :=
      List.dropWhile_append_of_pos (List.dropWhile_eq_nil_iff.mp allBlank)
    rw [start, none, allBlank]
  · have start : trimStart (text ++ blanks) = trimStart text ++ blanks := by
      have some : (text.dropWhile isBlank).isEmpty = false :=
        List.isEmpty_eq_false_iff.mpr allBlank
      rw [trimStart, List.dropWhile_append, some]
      rfl
    rw [start, fromEnd]

/-- A line before a line feed is a line of the text, perhaps without a carriage return at its end. -/
theorem exists_lines_append_feed {line : Text} (isLine : line.IsLine) (rest : Text) :
    ∃ first, lines (line ++ '\n' :: rest) = first :: lines rest ∧ trim first = trim line := by
  suffices found : ∃ first, lines (line ++ '\n' :: rest) = first :: lines rest ∧
      (line = first ∨ line = first ++ ['\r']) by
    obtain ⟨first, isFirst, rfl | rfl⟩ := found
    · exact ⟨line, isFirst, rfl⟩
    · exact ⟨first, isFirst, (trim_append_blanks (by decide) first).symm⟩
  induction line with
  | nil => exact ⟨[], rfl, .inl rfl⟩
  | cons c line ih =>
    rw [isLine_cons] at isLine
    obtain ⟨first, isFirst, ends⟩ := ih isLine.2
    rw [List.cons_append, lines.eq_def]
    split
    · next empty => cases empty
    · next feed => exact (isLine.1 (List.cons.inj feed).1.symm).elim
    · next returnFeed =>
      obtain ⟨rfl, feed⟩ := List.cons.inj returnFeed
      cases line with
      | nil =>
        obtain ⟨-, rfl⟩ := List.cons.inj feed
        exact ⟨[], rfl, .inr rfl⟩
      | cons d line =>
        obtain ⟨rfl, -⟩ := List.cons.inj feed
        exact ((isLine_cons.mp isLine.2).1 rfl).elim
    · next split =>
      obtain ⟨rfl, rfl⟩ := List.cons.inj split
      rw [isFirst]
      exact ⟨c :: first, rfl, ends.imp (congrArg (c :: ·)) (congrArg (c :: ·))⟩

/-- Lines put before a text are lines of the whole, up to blanks at their ends. -/
theorem exists_lines_unlines_append {all : List Text} (areLines : ∀ line ∈ all, line.IsLine)
    (text : Text) :
    ∃ firsts, lines (unlines all ++ text) = firsts ++ lines text ∧
      firsts.map trim = all.map trim := by
  induction all with
  | nil => exact ⟨[], rfl, rfl⟩
  | cons line all ih =>
    obtain ⟨firsts, areFirsts, contents⟩ := ih fun other member =>
      areLines other (List.mem_cons_of_mem _ member)
    obtain ⟨first, isFirst, content⟩ := exists_lines_append_feed
      (areLines line List.mem_cons_self) (unlines all ++ text)
    refine ⟨first :: firsts, ?_, by rw [List.map_cons, content, contents, List.map_cons]⟩
    rw [unlines, List.flatMap_cons, ← unlines, List.append_assoc, List.append_assoc,
      List.singleton_append, isFirst, areFirsts, List.cons_append]

end Text

namespace FileKind

/-! ## Detection line by line -/

theorem map_raw_ofText (text : Text) : (Line.ofText text).map Line.raw = Text.lines text := by
  rw [Line.ofText, List.map_map]
  exact List.zipIdx_map_fst 1 _

/-- A content that is neither blank nor a comment nor a document marker without a remark. -/
def isContent (content : Text) : Bool :=
  !content.isEmpty && content.head? ≠ some '#' && content ≠ "---".toList

/-- The first content tells whether a text starts with a list item. -/
theorem startsWithItem_eq (text : Text) :
    startsWithItem (Line.ofText text) =
      (((Text.lines text).map Text.trim).find? isContent).any LineFacts.isDashed := by
  rw [← map_raw_ofText, List.map_map, List.find?_map, Option.any_map]
  rfl

/-- The number of a line tells nothing about the kind of its file. -/
theorem any_isPlaybookLine (text : Text) :
    (Line.ofText text).any isPlaybookLine =
      (Text.lines text).any fun line => isPlaybookLine ⟨1, line⟩ := by
  rw [← map_raw_ofText, List.any_map]
  rfl

/-- What tells the kind of a file, apart from its path, are the keys and the first content. -/
theorem detect_of_lines {path first second : Text}
    (keys : (Line.ofText second).any isPlaybookLine = (Line.ofText first).any isPlaybookLine)
    (start : startsWithItem (Line.ofText second) = startsWithItem (Line.ofText first)) :
    detect path second = detect path first := by
  simp only [detect, keys, start]

/-- Whether the path of a file is that of a task list. -/
def isTaskPath (path : Text) : Bool :=
  taskMarks.any fun mark => Text.holds mark (normalizePath path)

/-- Where a text with the same keys starts with no list item, the kind is unknown if the item told that
of a task list, and is the same otherwise. -/
theorem detect_of_noItem {path first second : Text}
    (keys : (Line.ofText second).any isPlaybookLine = (Line.ofText first).any isPlaybookLine)
    (noItem : startsWithItem (Line.ofText second) = false) :
    detect path second =
      if detect path first = .taskList ∧ isTaskPath path = false then .unknown
      else detect path first := by
  simp only [detect, keys, noItem, isTaskPath]
  split_ifs <;> simp_all

section

variable {preamble : List Text} (text : Text)
  (isPreamble : ∀ line ∈ preamble, line.IsLine ∧ IsPreambleLine line)
include isPreamble

theorem any_isPlaybookLine_preamble :
    (Line.ofText (Text.unlines preamble ++ text)).any isPlaybookLine =
      (Line.ofText text).any isPlaybookLine := by
  obtain ⟨firsts, areFirsts, contents⟩ :=
    Text.exists_lines_unlines_append (fun line member => (isPreamble line member).1) text
  have noKeys : (firsts.any fun line => isPlaybookLine ⟨1, line⟩) = false := by
    rw [List.any_eq_false]
    intro first member
    have content : Text.trim first ∈ preamble.map Text.trim :=
      contents ▸ List.mem_map_of_mem member
    obtain ⟨line, isLine, same⟩ := List.mem_map.mp content
    have noKey := ((isPreamble line isLine).2.facts 1).2
    have facts : (LineFacts.ofLine ⟨1, first⟩).key = (LineFacts.ofLine ⟨1, line⟩).key := by
      simp only [LineFacts.ofLine, Line.content, same]
      rfl
    simp [isPlaybookLine, LineFacts.hasKey, facts, noKey]
  rw [any_isPlaybookLine, areFirsts, List.any_append, noKeys, Bool.false_or, any_isPlaybookLine]

theorem startsWithItem_preamble :
    startsWithItem (Line.ofText (Text.unlines preamble ++ text)) =
      if ∃ line ∈ preamble, IsRemarkedMarker line then false
      else startsWithItem (Line.ofText text) := by
  obtain ⟨firsts, areFirsts, contents⟩ :=
    Text.exists_lines_unlines_append (fun line member => (isPreamble line member).1) text
  rw [startsWithItem_eq, areFirsts, List.map_append, contents, List.find?_append]
  split
  · next remarked =>
    -- The first line with content lies in the preamble, where no line is a list item.
    obtain ⟨marker, isLine, remarked⟩ := remarked
    obtain ⟨rest, content⟩ := remarked.exists_cons
    have found : ((preamble.map Text.trim).find? isContent).isSome :=
      List.find?_isSome.mpr ⟨_, List.mem_map_of_mem isLine, by rw [content]; rfl⟩
    obtain ⟨first, isFirst⟩ := Option.isSome_iff_exists.mp found
    obtain ⟨line, member, rfl⟩ := List.mem_map.mp (List.mem_of_find?_eq_some isFirst)
    rw [isFirst]
    exact ((isPreamble line member).2.facts 1).1
  · next bare =>
    have noContent : (preamble.map Text.trim).find? isContent = none := by
      refine List.find?_eq_none.mpr fun content member => ?_
      obtain ⟨line, isLine, rfl⟩ := List.mem_map.mp member
      obtain empty | sign | hyphens | remarked := (isPreamble line isLine).2.content
      · simp [isContent, empty]
      · simp [isContent, sign]
      · simp [isContent, hyphens]
      · exact (bare ⟨line, isLine, remarked⟩).elim
    rw [noContent, Option.none_or, startsWithItem_eq]

end

/-- **Preambles.** A preamble leaves the kind of a file as it is exactly if no document marker in it
has a remark, or if the kind is not that of a task list, or if the path tells it. Otherwise the task
list is not recognized, and the kind is unknown. -/
theorem detect_preamble_iff (path text : Text) {preamble : List Text}
    (isPreamble : ∀ line ∈ preamble, line.IsLine ∧ IsPreambleLine line) :
    (detect path (Text.unlines preamble ++ text) = detect path text ↔
      (∀ line ∈ preamble, ¬ IsRemarkedMarker line) ∨ detect path text ≠ .taskList ∨
        isTaskPath path) ∧
    (detect path (Text.unlines preamble ++ text) = detect path text ∨
      detect path text = .taskList ∧ detect path (Text.unlines preamble ++ text) = .unknown) := by
  have keys := any_isPlaybookLine_preamble text isPreamble
  have start := startsWithItem_preamble text isPreamble
  by_cases remarked : ∃ line ∈ preamble, IsRemarkedMarker line
  · rw [if_pos remarked] at start
    have some : ¬ ∀ line ∈ preamble, ¬ IsRemarkedMarker line := by simpa using remarked
    rw [detect_of_noItem keys start, or_iff_right some]
    by_cases taskList : detect path text = .taskList
    · by_cases byPath : isTaskPath path
      · simp [byPath]
      · simp [taskList, byPath]
    · simp [taskList]
  · rw [if_neg remarked] at start
    have same : detect path (Text.unlines preamble ++ text) = detect path text :=
      detect_of_lines keys start
    have none : ∀ line ∈ preamble, ¬ IsRemarkedMarker line := by simpa using remarked
    exact ⟨iff_of_true same (.inl none), .inl same⟩

/-- A preamble of all kinds of lines before a task list. -/
theorem detect_preamble_iff_site :
    let preamble : List Text := ["", "\t# site", "---", "--- # tasks\r"].map String.toList
    let text := "- name: a\n  ping:\n".toList
    (∀ line ∈ preamble, line.IsLine ∧ IsPreambleLine line) ∧
      detect "tasks/a.yml".toList (Text.unlines preamble ++ text) = .taskList := by
  intro preamble text
  have isPreamble : ∀ line ∈ preamble, line.IsLine ∧ IsPreambleLine line := by
    have lines : ∀ line ∈ preamble, line.IsLine ∧
        (LineToken.classify ⟨1, line⟩ {}).role.isPreamble := by decide
    exact fun line member => ⟨(lines line member).1, 1, {}, (lines line member).2⟩
  have same := (detect_preamble_iff "tasks/a.yml".toList text isPreamble).1.mpr
    (.inr (.inr (by decide)))
  exact ⟨isPreamble, same.trans (by decide)⟩

/-- Behind a document marker with a remark a task list is not recognized. -/
theorem detect_preamble_remarked :
    let text := "- name: a\n  ping:\n".toList
    IsPreambleLine "--- # tasks".toList ∧ detect "a.yml".toList text = .taskList ∧
      detect "a.yml".toList (Text.unlines ["--- # tasks".toList] ++ text) = .unknown := by
  refine ⟨⟨1, {}, ?_⟩, ?_, ?_⟩ <;> decide

end FileKind

end PlaybookRepair
