import PlaybookRepair.Proofs.Tidy.Line

/-!
# Lines with another keyword

In place of the key of a line another keyword is its key again, and all else that the line shows is
the same (`Line.Rekeyed.facts`). With a list marker such a line is a list item, whatever the keyword
(`Role.ofFacts_dashed`); without one a keyword of tasks belongs to a task, and one that is valid on
plays as well goes by its surroundings (`Role.ofFacts_taskKeyword`, `Role.ofFacts_sharedKeyword`).
-/

namespace PlaybookRepair

open Catalog (ShellFamily keywordScope? taskKeywords playKeywords)
open KeyedLine (isName isKeyStart isKeyChar splitKey? splitKeyValue?)
open Text (isBlank)

/-- The texts differ in one word, with nothing but blanks and list markers before it. -/
def Text.Rekeyed (old new first second : Text) : Prop :=
  ∃ lead rest, (∀ c ∈ lead, isBlank c ∨ c = '-') ∧
    first = lead ++ old ++ rest ∧ second = lead ++ new ++ rest

/-- The second line is the first one with another key. -/
structure Line.Rekeyed (first second : Line) (old new : Text) : Prop where
  number : second.number = first.number
  key : (LineFacts.ofLine first).key = some old
  raw : ∃ margin marker rest, (∀ c ∈ margin, isBlank c) ∧
    (marker = [] ∨ ∃ gap, marker = '-' :: ' ' :: gap ∧ ∀ c ∈ gap, isBlank c) ∧
    first.raw = margin ++ marker ++ old ++ rest ∧ second.raw = margin ++ marker ++ new ++ rest

/-- The second line shows what the first one does, but for its key. -/
structure LineFacts.Rekeyed (first second : LineFacts) (old new : Text) : Prop where
  number : second.line.number = first.line.number
  indent : second.indent = first.indent
  dashed : second.dashed = first.dashed
  value : second.value = first.value
  firstKey : first.key = some old
  secondKey : second.key = some new
  content : Text.Rekeyed old new first.content second.content
  firstOrdinary : Tidy.IsOrdinary first.content
  secondOrdinary : Tidy.IsOrdinary second.content
  noFragment : first.dashed → ShellFamily.ofContent? first.content = none ∧
    ShellFamily.ofContent? second.content = none
  copy : Text.Rekeyed old new (Text.trimEnd first.line.raw) (Text.trimEnd second.line.raw)

/-! ## Texts -/

section

variable {old new first second : Text}

theorem Text.Rekeyed.append_left (rekeyed : Text.Rekeyed old new first second) {lead : Text}
    (isLead : ∀ c ∈ lead, isBlank c ∨ c = '-') :
    Text.Rekeyed old new (lead ++ first) (lead ++ second) := by
  obtain ⟨inner, rest, isInner, rfl, rfl⟩ := rekeyed
  exact ⟨lead ++ inner, rest, List.forall_mem_append.mpr ⟨isLead, isInner⟩, by simp, by simp⟩

theorem Text.Rekeyed.item (rekeyed : Text.Rekeyed old new first second) :
    Text.Rekeyed old new (listItemText first) (listItemText second) :=
  rekeyed.append_left (show ∀ c ∈ ['-', ' '], isBlank c ∨ c = '-' by decide)

variable (oldKeyword : keywordScope? old ≠ none) (newKeyword : keywordScope? new ≠ none)

/-- A keyword starts with a letter and does not end with a blank. -/
theorem Catalog.keyword_ends {key : Text} (isKeyword : keywordScope? key ≠ none) :
    (∃ c rest, key = c :: rest ∧ isKeyStart c) ∧
      ∀ c, key.getLast? = some c → isBlank c = false := by
  have listed : ∀ word ∈ taskKeywords ++ playKeywords, word.getLast?.any isBlank = false := by
    decide +kernel
  have last : key.getLast?.any isBlank = false := by
    by_cases onTask : taskKeywords.contains key
    · exact listed key (List.mem_append_left _ (List.contains_iff_mem.mp onTask))
    · by_cases onPlay : playKeywords.contains key
      · exact listed key (List.mem_append_right _ (List.contains_iff_mem.mp onPlay))
      · rw [keywordScope?, Bool.eq_false_iff.mpr onTask, Bool.eq_false_iff.mpr onPlay] at isKeyword
        exact (isKeyword rfl).elim
  refine ⟨?_, fun c isLast => by rwa [isLast] at last⟩
  have named := KeyedLine.isName_of_keywordScope? isKeyword
  cases key with
  | nil => cases named
  | cons c rest => exact ⟨c, rest, rfl, (Bool.and_eq_true_iff.mp named).1⟩

include oldKeyword newKeyword

/-- Neither of the texts is empty, both or none start a comment, and both or none start like a
document marker. -/
theorem Text.Rekeyed.starts (rekeyed : Text.Rekeyed old new first second) :
    first ≠ [] ∧ second ≠ [] ∧
      (Text.trimStart first).head? ≠ some '#' ∧ (Text.trimStart second).head? ≠ some '#' ∧
      "---".toList.isPrefixOf second = "---".toList.isPrefixOf first := by
  obtain ⟨lead, rest, isLead, rfl, rfl⟩ := rekeyed
  obtain ⟨⟨c, old, rfl, oldStart⟩, _⟩ := Catalog.keyword_ends oldKeyword
  obtain ⟨⟨d, new, rfl, newStart⟩, _⟩ := Catalog.keyword_ends newKeyword
  have noComment {c : Char} (start : isKeyStart c) (word : Text) :
      (Text.trimStart (lead ++ c :: word ++ rest)).head? ≠ some '#' := by
    have notBlank := Tidy.isBlank_of_isKeyStart start
    rw [Text.trimStart, List.append_assoc]
    induction lead with
    | nil =>
        rw [List.nil_append, List.cons_append, List.dropWhile_cons_of_neg (by simp [notBlank])]
        rintro ⟨⟩
        cases start
    | cons first lead ih =>
        obtain ⟨isFirst, later⟩ := List.forall_mem_cons.mp isLead
        rw [List.cons_append, List.dropWhile_cons]
        split
        · exact ih later
        · next solid =>
            rintro ⟨⟩
            exact isFirst.elim solid (by decide)
  have noMarker {c : Char} (start : isKeyStart c) (word : Text) :
      "---".toList.isPrefixOf (lead ++ c :: word ++ rest) = "---".toList.isPrefixOf lead := by
    have notHyphen : '-' ≠ c := by
      rintro rfl
      cases start
    rcases lead with _ | ⟨_, _ | ⟨_, _ | ⟨_, _⟩⟩⟩
    · simp [List.isPrefixOf, notHyphen]
    · simp [List.isPrefixOf, notHyphen]
    · simp [List.isPrefixOf, notHyphen]
    · simp [List.isPrefixOf]
  exact ⟨by simp, by simp, noComment oldStart old, noComment newStart new,
    (noMarker newStart new).trans (noMarker oldStart old).symm⟩

/-- The same stands before the words. -/
theorem Text.Rekeyed.lead_eq (rekeyed : Text.Rekeyed old new first second) :
    second.takeWhile (fun c => isBlank c || c = '-') =
      first.takeWhile fun c => isBlank c || c = '-' := by
  obtain ⟨lead, rest, isLead, rfl, rfl⟩ := rekeyed
  have before {word : Text} (isKeyword : keywordScope? word ≠ none) :
      (lead ++ word ++ rest).takeWhile (fun c => isBlank c || c = '-') = lead := by
    obtain ⟨⟨c, name, rfl, start⟩, _⟩ := Catalog.keyword_ends isKeyword
    have notHyphen : c ≠ '-' := by
      rintro rfl
      cases start
    rw [List.append_assoc, List.takeWhile_append_of_pos (by simpa using isLead), List.cons_append,
      List.takeWhile_cons_of_neg (by simp [Tidy.isBlank_of_isKeyStart start, notHyphen]),
      List.append_nil]
  rw [before oldKeyword, before newKeyword]

end

/-! ## Lines -/

theorem Text.trimEnd_append_of_ends {text : Text}
    (ends : ∀ c, text.getLast? = some c → isBlank c = false) (rest : Text) :
    Text.trimEnd (text ++ rest) = text ++ Text.trimEnd rest := by
  have kept : text.reverse.dropWhile isBlank = text.reverse := by
    cases last : text.reverse with
    | nil => rfl
    | cons c more =>
        have isLast : text.getLast? = some c := by
          rw [List.getLast?_eq_head?_reverse, last]
          rfl
        exact List.dropWhile_cons_of_neg (by simp [ends c isLast])
  unfold Text.trimEnd
  rw [List.reverse_append, List.dropWhile_append, kept]
  split
  · next empty => rw [List.isEmpty_iff.mp empty, List.reverse_reverse, List.reverse_nil,
      List.append_nil]
  · rw [List.reverse_append, List.reverse_reverse]

/-- The indentation of a line ends before its first other character. -/
theorem Line.indentWidth_append (lead : Text) {c d : Char} (first second : Text)
    (solid : c ≠ ' ' ∧ c ≠ '\t') (alsoSolid : d ≠ ' ' ∧ d ≠ '\t') :
    Line.indentWidth (lead ++ d :: second) = Line.indentWidth (lead ++ c :: first) := by
  have none {c : Char} (solid : c ≠ ' ' ∧ c ≠ '\t') (rest : Text) :
      Line.indentWidth (c :: rest) = 0 := by
    unfold Line.indentWidth
    split
    · next same => exact (solid.1 (List.cons.inj same).1).elim
    · next same => exact (solid.2 (List.cons.inj same).1).elim
    · rfl
  induction lead with
  | nil => exact (none alsoSolid second).trans (none solid first).symm
  | cons e lead ih =>
      rw [List.cons_append, List.cons_append]
      by_cases isSpace : e = ' '
      · rw [isSpace, Line.indentWidth, Line.indentWidth, ih]
      · by_cases isTab : e = '\t'
        · rw [isTab, Line.indentWidth, Line.indentWidth, ih]
        · rw [none ⟨isSpace, isTab⟩, none ⟨isSpace, isTab⟩]

/-- Behind a word that has been read as a key stands no further character of its name. -/
theorem KeyedLine.ends_of_splitKey? {key body rest : Text} (starts : key.head?.any isKeyStart)
    (split : splitKey? body = some (key, rest)) :
    ∀ c, rest.head? = some c → isKeyChar c = false := by
  have quoted {quote : Char} {text : Text} (noStart : isKeyStart quote = false)
      (split : splitQuotedKey? quote text = some (key, rest)) : False := by
    obtain ⟨tail, whole⟩ : ∃ tail, key = quote :: tail := by
      unfold splitQuotedKey? at split
      dsimp only at split
      split at split
      · split at split
        · cases split
        · cases split
          exact ⟨_, rfl⟩
      · cases split
    rw [whole] at starts
    exact Bool.eq_false_iff.mp noStart starts
  unfold splitKey? at split
  split at split
  · exact (quoted (by decide) split).elim
  · exact (quoted (by decide) split).elim
  · next c tail _ _ =>
      split at split
      · cases split
        intro d first
        have stops := List.head?_dropWhile_not isKeyChar tail
        rwa [first] at stops
      · cases split
  · cases split

/-- A key ends where its word ends, so another keyword in its place is a key with the same value. -/
theorem KeyedLine.splitKeyValue?_of_keyword {old new rest value : Text}
    (oldKeyword : keywordScope? old ≠ none) (newKeyword : keywordScope? new ≠ none)
    (split : splitKeyValue? (old ++ rest) = some (old, value)) :
    splitKeyValue? (new ++ rest) = some (new, value) := by
  obtain ⟨⟨c, name, isName, start⟩, _⟩ := Catalog.keyword_ends oldKeyword
  obtain ⟨⟨tail, isKey⟩, _⟩ := splitKeyValue?_eq_some split
  obtain rfl : tail = rest := List.append_cancel_left (splitKey?_append isKey)
  have ends := ends_of_splitKey? (by rw [isName]; exact start) isKey
  have isNewKey := splitKey?_of_isName (isName_of_keywordScope? newKeyword) ends
  unfold splitKeyValue? at split ⊢
  rw [isKey] at split
  rw [isNewKey]
  dsimp only at split ⊢
  generalize tail.dropWhile isGap = behind at split ⊢
  split at split
  · obtain ⟨found, isValue, same⟩ := Option.map_eq_some_iff.mp split
    rw [isValue, ← (Prod.mk.inj same).2]
    rfl
  · cases split

section

variable {margin marker key rest : Text} {line : Line}

/-- Trimmed at its end, a line with a keyword still has it. -/
theorem Text.trimEnd_keyword (isKeyword : keywordScope? key ≠ none) (lead rest : Text) :
    trimEnd (lead ++ key ++ rest) = lead ++ key ++ trimEnd rest := by
  obtain ⟨⟨c, _, rfl, _⟩, ends⟩ := Catalog.keyword_ends isKeyword
  refine trimEnd_append_of_ends (fun d last => ends d ?_) rest
  rwa [List.getLast?_append_of_ne_nil _ (by simp)] at last

/-- The parts of a line with a keyword behind its margin and its list marker. -/
theorem LineFacts.ofLine_keyword (isKeyword : keywordScope? key ≠ none)
    (areBlank : ∀ c ∈ margin, isBlank c)
    (isMarker : marker = [] ∨ ∃ gap, marker = '-' :: ' ' :: gap ∧ ∀ c ∈ gap, isBlank c)
    (raw : line.raw = margin ++ marker ++ key ++ rest) :
    (ofLine line).content = marker ++ key ++ Text.trimEnd rest ∧
      (ofLine line).dashed = !marker.isEmpty ∧ (ofLine line).body = key ++ Text.trimEnd rest := by
  obtain ⟨⟨c, name, isName, start⟩, _⟩ := Catalog.keyword_ends isKeyword
  have notBlank := Tidy.isBlank_of_isKeyStart start
  have content : line.content = marker ++ key ++ Text.trimEnd rest := by
    have trimmed : Text.trimStart line.raw = marker ++ key ++ rest := by
      rw [raw, List.append_assoc margin, List.append_assoc margin]
      refine Text.trimStart_append areBlank fun d tail first => ?_
      obtain rfl | ⟨gap, rfl, _⟩ := isMarker
      · rw [isName] at first
        rw [← (List.cons.inj first).1]
        exact notBlank
      · rw [← (List.cons.inj first).1]
        decide
    rw [Line.content, Text.trim, trimmed, Text.trimEnd_keyword isKeyword]
  have dashed : isDashed line.content = !marker.isEmpty := by
    rw [content]
    obtain rfl | ⟨gap, rfl, _⟩ := isMarker
    · have notHyphen : '-' ≠ c := by
        rintro rfl
        cases start
      rw [isName]
      simp [isDashed, List.isPrefixOf, notHyphen, notHyphen.symm]
    · simp [isDashed, List.isPrefixOf]
  refine ⟨content, dashed, ?_⟩
  change (if isDashed line.content then Text.trimStart (line.content.drop 1) else line.content) = _
  rw [dashed, content]
  obtain rfl | ⟨gap, rfl, areGap⟩ := isMarker
  · rfl
  · change Text.trimStart (' ' :: gap ++ key ++ Text.trimEnd rest) = _
    rw [List.append_assoc]
    have areBlank : ∀ c ∈ ' ' :: gap, Text.isBlank c := List.forall_mem_cons.mpr ⟨by decide, areGap⟩
    refine Text.trimStart_append areBlank fun d tail first => ?_
    rw [isName] at first
    rw [← (List.cons.inj first).1]
    exact notBlank

/-- A keyword, with or without a list marker, starts no comment and no document. -/
theorem Tidy.isOrdinary_keyword (isKeyword : keywordScope? key ≠ none)
    (isMarker : marker = [] ∨ ∃ gap, marker = '-' :: ' ' :: gap ∧ ∀ c ∈ gap, isBlank c) :
    IsOrdinary (marker ++ key ++ rest) := by
  obtain rfl | ⟨gap, rfl, _⟩ := isMarker
  · exact isOrdinary_named (KeyedLine.isName_of_keywordScope? isKeyword) _
  · exact ⟨by simp, by simp, by simp [List.isPrefixOf]⟩

end

/-- **A line with another keyword.** All that it shows but the key is the same. -/
theorem Line.Rekeyed.facts {old new : Text} {first second : Line}
    (rekeyed : first.Rekeyed second old new) (oldKeyword : keywordScope? old ≠ none)
    (newKeyword : keywordScope? new ≠ none) :
    (LineFacts.ofLine first).Rekeyed (.ofLine second) old new := by
  obtain ⟨margin, marker, rest, areBlank, isMarker, firstRaw, secondRaw⟩ := rekeyed.raw
  obtain ⟨firstContent, firstDashed, firstBody⟩ :=
    LineFacts.ofLine_keyword oldKeyword areBlank isMarker firstRaw
  obtain ⟨secondContent, secondDashed, secondBody⟩ :=
    LineFacts.ofLine_keyword newKeyword areBlank isMarker secondRaw
  obtain ⟨⟨c, oldRest, isOld, oldStart⟩, _⟩ := Catalog.keyword_ends oldKeyword
  obtain ⟨⟨d, newRest, isNew, newStart⟩, _⟩ := Catalog.keyword_ends newKeyword
  have isLead : ∀ c ∈ margin ++ marker, isBlank c ∨ c = '-' := by
    refine List.forall_mem_append.mpr ⟨fun c member => .inl (areBlank c member), ?_⟩
    obtain rfl | ⟨gap, rfl, areGap⟩ := isMarker
    · exact List.forall_mem_nil _
    · exact List.forall_mem_cons.mpr ⟨.inr rfl, List.forall_mem_cons.mpr ⟨.inl (by decide),
        fun c member => .inl (areGap c member)⟩⟩
  have split := LineFacts.splitKeyValue?_body rekeyed.key
  rw [firstBody] at split
  have keyAndValue {line : Line} {body : Text} (isBody : (LineFacts.ofLine line).body = body) :
      (LineFacts.ofLine line).key = (splitKeyValue? body).map (·.1) ∧
        (LineFacts.ofLine line).value = ((splitKeyValue? body).map (·.2)).getD [] := by
    rw [← isBody]
    exact ⟨rfl, rfl⟩
  obtain ⟨secondKey, secondValue⟩ := keyAndValue secondBody
  rw [KeyedLine.splitKeyValue?_of_keyword oldKeyword newKeyword split] at secondKey secondValue
  refine
    { number := rekeyed.number
      indent := ?indent
      dashed := secondDashed.trans firstDashed.symm
      value := secondValue
      firstKey := rekeyed.key
      secondKey
      content := ⟨marker, Text.trimEnd rest, fun c member =>
        isLead c (List.mem_append_right _ member), firstContent, secondContent⟩
      firstOrdinary := by rw [firstContent]; exact Tidy.isOrdinary_keyword oldKeyword isMarker
      secondOrdinary := by rw [secondContent]; exact Tidy.isOrdinary_keyword newKeyword isMarker
      noFragment := ?noFragment
      copy := ⟨margin ++ marker, Text.trimEnd rest, isLead, ?first, ?second⟩ }
  case indent =>
    change Line.indentWidth second.raw = Line.indentWidth first.raw
    have solid {e : Char} (start : isKeyStart e) : e ≠ ' ' ∧ e ≠ '\t' := by
      constructor <;> rintro rfl <;> cases start
    rw [firstRaw, secondRaw, isOld, isNew, List.append_assoc (margin ++ marker),
      List.append_assoc (margin ++ marker)]
    exact Line.indentWidth_append _ _ _ (solid oldStart) (solid newStart)
  case noFragment =>
    rw [firstDashed]
    intro dashed
    obtain rfl | ⟨gap, rfl, _⟩ := isMarker
    · cases dashed
    · rw [firstContent, secondContent]
      exact ⟨rfl, rfl⟩
  case first =>
    change Text.trimEnd first.raw = _
    rw [firstRaw, Text.trimEnd_keyword oldKeyword]
  case second =>
    change Text.trimEnd second.raw = _
    rw [secondRaw, Text.trimEnd_keyword newKeyword]

/-! ## Roles -/

/-- A keyword that is valid on tasks is not the key of the header of a play or of a task. -/
theorem Catalog.ne_header_of_keywordScope? {key : Text} {scope : KeywordScope}
    (isKeyword : keywordScope? key = some scope) (notPlay : scope ≠ .play) :
    key ≠ "hosts".toList ∧ key ≠ "name".toList := by
  have ofHosts : keywordScope? "hosts".toList = some .play := by decide +kernel
  have ofName : keywordScope? "name".toList = none := by decide +kernel
  constructor <;> rintro rfl
  · exact notPlay (Option.some.inj (isKeyword.symm.trans ofHosts))
  · cases isKeyword.symm.trans ofName

section

variable {facts : LineFacts} {around : Surroundings} {key : Text}
  (ordinary : Tidy.IsOrdinary facts.content) (hasKey : facts.key = some key)
include ordinary hasKey

/-- Without a list marker a keyword of tasks belongs to a task. -/
theorem Role.ofFacts_taskKeyword (notDashed : facts.dashed = false)
    (onTask : keywordScope? key = some .task) : Role.ofFacts facts around = .taskAttribute := by
  obtain ⟨noHosts, noName⟩ := Catalog.ne_header_of_keywordScope? onTask (by decide)
  refine Tidy.ofFacts_of_key ordinary hasKey noHosts noName ?_
  simp [Rule.keyword, notDashed, hasKey, onTask]

/-- Without a list marker a keyword of plays and tasks belongs to what is around it. -/
theorem Role.ofFacts_sharedKeyword (notDashed : facts.dashed = false)
    (isShared : keywordScope? key = some .shared) :
    Role.ofFacts facts around =
      if Rule.isTaskScope around facts.indent then .taskAttribute else .playAttribute := by
  obtain ⟨noHosts, noName⟩ := Catalog.ne_header_of_keywordScope? isShared (by decide)
  refine Tidy.ofFacts_of_key ordinary hasKey noHosts noName ?_
  simp [Rule.keyword, notDashed, hasKey, isShared]

/-- With a list marker a line that has neither hosts nor a name is a list item. -/
theorem Role.ofFacts_dashed (dashed : facts.dashed) (noHosts : key ≠ "hosts".toList)
    (noName : key ≠ "name".toList) (noFragment : ShellFamily.ofContent? facts.content = none) :
    Role.ofFacts facts around = .listItem := by
  have hosts : facts.hasKey "hosts" = false := by
    rw [LineFacts.hasKey, hasKey]
    simpa using noHosts
  have name : facts.hasKey "name" = false := by
    rw [LineFacts.hasKey, hasKey]
    simpa using noName
  rw [Tidy.ofFacts_of_isOrdinary ordinary]
  simp [Rule.playHeader, Rule.taskHeader, Rule.keyword, Rule.moduleInvocation, Rule.shellFragment,
    Rule.keyValue, Rule.listItem, Rule.claimIf, hosts, name, dashed, noFragment]

end

end PlaybookRepair
