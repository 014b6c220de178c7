import PlaybookRepair.Proofs.Rebuild.Vars
import PlaybookRepair.Proofs.TaskAction.Line

/-!
# Flat variables

A file of variables is rebuilt from the lines that give a variable its value (`IsEligible`), and of
those from the first one with each key (`firsts`). What is written for such a line is again a line
with the key, and with a value that ends on it (`Setting.IsFlat`). A line that comes later with the
same key is reported and not written, and a line that is written is reported if it was nested or if
its value could not be read (`reports`). Other lines leave no trace (`rebuildVars_flat`).
-/

namespace PlaybookRepair

namespace KeyedLine

/-- What has a key starts neither with a blank nor with a list marker. -/
theorem head_of_splitKey? {text key rest : Text} (split : splitKey? text = some (key, rest)) :
    ∀ c, text.head? = some c → Text.isBlank c = false ∧ c ≠ '-' := by
  intro c first
  by_contra other
  have noKey : splitKey? text = none := by
    apply splitKey?_eq_none
    intro d first'
    obtain rfl : c = d := Option.some.inj (first.symm.trans first')
    by_cases isBlank : Text.isBlank c
    · exact .inl isBlank
    · exact .inr (.inl (by_contra fun notHyphen => other ⟨by simpa using isBlank, notHyphen⟩))
  rw [noKey] at split
  cases split

/-- A key is found again on a line that is written for it, and so is its value. -/
theorem splitKeyValue?_append {body key value new : Text}
    (split : splitKeyValue? body = some (key, value)) (isLine : new.IsLine)
    (trimmed : Text.trim new = new) : splitKeyValue? (key ++ ": ".toList ++ new) = some (key, new) := by
  obtain ⟨⟨rest, isKey⟩, -⟩ := splitKeyValue?_eq_some split
  have whole : key ++ ": ".toList ++ new = key ++ ':' :: ' ' :: new := List.append_assoc ..
  have isValue : valueAfterColon? (' ' :: new) = some new := by
    rw [valueAfterColon?, if_pos, trimmed]
    rw [Bool.and_eq_true, Bool.not_eq_true', List.contains_eq_mem, decide_eq_false_iff_not]
    exact ⟨rfl, isLine⟩
  rw [whole, splitKeyValue?, splitKey?_append_colon isKey]
  change (valueAfterColon? (' ' :: new)).map (key, ·) = some (key, new)
  rw [isValue]
  rfl

end KeyedLine

/-- The lines of a text hold no line feed. -/
theorem Line.isLine_of_mem_ofText {text : Text} {line : Line} (member : line ∈ ofText text) :
    line.raw.IsLine := by
  obtain ⟨⟨raw, number⟩, numbered, rfl⟩ := List.mem_map.mp member
  exact Text.isLine_of_mem_lines (List.fst_mem_of_mem_zipIdx numbered)

namespace InlineValue

theorem opensBlock_doubleQuoted (value : Text) : opensBlock (doubleQuoted value) = false := by
  have noHeader : isBlockIndicator (doubleQuoted value) = false := by
    apply isBlockIndicator_eq_false
    intro c first
    obtain rfl : '"' = c := Option.some.inj first
    decide
  rw [opensBlock, noHeader]
  rfl

theorem trim_doubleQuoted (value : Text) : Text.trim (doubleQuoted value) = doubleQuoted value := by
  apply Text.trim_eq_self
  · intro c first
    obtain rfl : '"' = c := Option.some.inj first
    rfl
  · intro c last
    rw [doubleQuoted, List.getLast?_concat] at last
    obtain rfl : '"' = c := Option.some.inj last
    rfl

end InlineValue

namespace VarsRebuild

open InlineValue (doubleQuoted isBlockIndicator opensBlock quoteMapping)

variable {facts : LineFacts} {lines : List LineFacts} {text : Text}

/-! ## The lines that count -/

/-- Whether a line gives a variable its value: it is no list item, has a key and, behind the key, a
value that is neither a comment nor the header of a block scalar, and it is no line of a script. -/
structure IsEligible (facts : LineFacts) : Prop where
  notDashed : facts.dashed = false
  hasKey : facts.key.isSome
  hasValue : facts.value ≠ []
  noComment : facts.value.head? ≠ some '#'
  noHeader : isBlockIndicator facts.value = false
  noScript : Catalog.ShellFamily.ofContent? facts.content = none

theorem isVariable_iff : isVariable facts ↔ IsEligible facts := by
  simp only [isVariable, opensBlock, Bool.and_eq_true, Bool.not_eq_true', Bool.or_eq_false_iff,
    List.isEmpty_eq_false_iff, decide_eq_false_iff_not, Option.isNone_iff_eq_none]
  constructor
  · rintro ⟨⟨⟨notDashed, hasKey⟩, ⟨hasValue, noComment⟩, noHeader⟩, noScript⟩
    exact { notDashed, hasKey, hasValue, noComment, noHeader, noScript }
  · intro eligible
    exact ⟨⟨⟨eligible.notDashed, eligible.hasKey⟩, ⟨eligible.hasValue, eligible.noComment⟩,
      eligible.noHeader⟩, eligible.noScript⟩

instance : DecidablePred IsEligible := fun _ => decidable_of_iff _ isVariable_iff

/-- The value of an eligible line ends on the line. -/
theorem IsEligible.ends (eligible : IsEligible facts) : opensBlock facts.value = false := by
  rw [opensBlock, eligible.noHeader, List.isEmpty_eq_false_iff.mpr eligible.hasValue,
    decide_eq_false eligible.noComment]
  rfl

/-- The lines that give a variable its value. -/
def eligible (lines : List Line) : List LineFacts :=
  (lines.map LineFacts.ofLine).filter fun facts => IsEligible facts

theorem eligible_cons (line : Line) (lines : List Line) :
    eligible (line :: lines) = if IsEligible (LineFacts.ofLine line) then
      LineFacts.ofLine line :: eligible lines else eligible lines := by
  rw [eligible, List.map_cons, List.filter_cons]
  simp only [decide_eq_true_eq]
  rfl

theorem eligible_append (first second : List Line) :
    eligible (first ++ second) = eligible first ++ eligible second := by
  rw [eligible, List.map_append, List.filter_append]
  rfl

theorem isEligible_of_mem {lines : List Line} (member : facts ∈ eligible lines) :
    IsEligible facts :=
  of_decide_eq_true (List.mem_filter.mp member).2

/-- The key and the value of an eligible line are those of its body. -/
theorem exists_split_of_mem (member : facts ∈ eligible (Line.ofText text)) :
    ∃ key body, facts.key = some key ∧ KeyedLine.splitKeyValue? body = some (key, facts.value) ∧
      (key ++ facts.value).IsLine := by
  obtain ⟨source, isEligible⟩ := List.mem_filter.mp member
  obtain ⟨line, isSource, rfl⟩ := List.mem_map.mp source
  obtain ⟨key, isKey⟩ := Option.isSome_iff_exists.mp (of_decide_eq_true isEligible).hasKey
  have content : line.content.IsLine :=
    (Line.isLine_of_mem_ofText isSource).of_subset fun _ => Text.mem_of_mem_trim
  obtain ⟨keyPart, valuePart⟩ := LineFacts.key_value_subset line
  refine ⟨key, _, isKey, LineFacts.splitKeyValue?_body isKey,
    Text.isLine_append.mpr ⟨?_, content.of_subset valuePart⟩⟩
  exact content.of_subset (keyPart key isKey)

/-! ## The first line with each key -/

/-- The first line with each key. -/
def firsts (lines : List LineFacts) : List LineFacts :=
  lines.eraseDupsBy fun line earlier => line.key = earlier.key

theorem firsts_cons (facts : LineFacts) (lines : List LineFacts) :
    firsts (facts :: lines) = facts :: firsts (lines.filter fun line => line.key ≠ facts.key) := by
  rw [firsts, List.eraseDupsBy_cons, firsts]
  congr 2
  apply List.filter_congr
  intro line _
  by_cases same : line.key = facts.key <;> simp [same]

/-- Behind a line, only those with other keys are looked at. -/
theorem firsts_induction {motive : List LineFacts → Prop} (nil : motive [])
    (cons : ∀ facts lines, motive (lines.filter fun line => line.key ≠ facts.key) →
      motive (facts :: lines)) (lines : List LineFacts) : motive lines := by
  induction size : lines.length using Nat.strong_induction_on generalizing lines with
  | h count ih =>
    cases lines with
    | nil => exact nil
    | cons facts lines =>
      refine cons facts lines (ih _ ?_ _ rfl)
      rw [← size]
      exact Nat.lt_succ_of_le (List.length_filter_le _ _)

theorem map_key_firsts (lines : List LineFacts) :
    (firsts lines).map LineFacts.key = (lines.map LineFacts.key).eraseDups := by
  induction lines using firsts_induction with
  | nil => rfl
  | cons facts lines ih =>
    rw [firsts_cons, List.map_cons, ih, List.map_cons, List.eraseDups_cons, List.filter_map]
    congr 3
    apply List.filter_congr
    intro line _
    by_cases same : line.key = facts.key <;> simp [same]

/-- No line before them has the same key. -/
theorem find?_firsts (lines : List LineFacts) :
    ∀ first ∈ firsts lines, lines.find? (fun facts => facts.key = first.key) = some first := by
  induction lines using firsts_induction with
  | nil => exact nofun
  | cons facts lines ih =>
    intro first member
    rw [firsts_cons, List.mem_cons] at member
    obtain rfl | later := member
    · exact List.find?_cons_of_pos (decide_eq_true rfl)
    · have found := ih first later
      have apart : first.key ≠ facts.key := by
        simpa using (List.mem_filter.mp (List.mem_of_find?_eq_some found)).2
      rw [List.find?_cons_of_neg (by simpa using Ne.symm apart), ← found, List.find?_filter]
      congr 1
      funext other
      by_cases same : other.key = first.key
      · simp [same, apart]
      · simp [same]

theorem firsts_subset (lines : List LineFacts) : firsts lines ⊆ lines :=
  fun first member => List.mem_of_find?_eq_some (find?_firsts lines first member)

/-! ## What is written -/

/-- The variable that a line gives its value. -/
def setting (facts : LineFacts) : Setting := ⟨facts.key.getD [], facts.value⟩

theorem kept_cons (line : Line) (lines : List Line) (seen : List Text) :
    kept seen (line :: lines) =
      let facts := LineFacts.ofLine line
      if IsEligible facts ∧ (setting facts).key ∉ seen then
        setting facts :: kept ((setting facts).key :: seen) lines
      else kept seen lines := by
  rw [kept]
  dsimp only
  cases key : (LineFacts.ofLine line).key with
  | none =>
    have noKey : ¬ IsEligible (LineFacts.ofLine line) := fun eligible => by
      simpa [key] using eligible.hasKey
    rw [if_neg fun both => noKey both.1]
  | some key' =>
    have same : setting (LineFacts.ofLine line) = ⟨key', (LineFacts.ofLine line).value⟩ := by
      rw [setting, key]
      rfl
    simp only [same, Bool.and_eq_true, isVariable_iff, Bool.not_eq_true', List.contains_eq_mem,
      decide_eq_false_iff_not]

/-- The variables that are kept are those of the first eligible line with each key, if no line with
the key has been seen before. -/
theorem kept_eq (lines : List Line) :
    ∀ seen : List Text, kept seen lines =
      (firsts ((eligible lines).filter fun facts => (setting facts).key ∉ seen)).map setting := by
  induction lines with
  | nil =>
    intro seen
    rfl
  | cons line lines ih =>
    intro seen
    rw [kept_cons, eligible_cons]
    dsimp only
    by_cases isEligible : IsEligible (LineFacts.ofLine line)
    · rw [if_pos isEligible]
      by_cases isNew : (setting (LineFacts.ofLine line)).key ∉ seen
      · rw [if_pos ⟨isEligible, isNew⟩, List.filter_cons_of_pos (by simpa using isNew), firsts_cons,
          List.map_cons, ih, List.filter_filter]
        congr 3
        apply List.filter_congr
        intro other member
        obtain ⟨key, isKey⟩ := Option.isSome_iff_exists.mp isEligible.hasKey
        obtain ⟨key', isKey'⟩ := Option.isSome_iff_exists.mp (isEligible_of_mem member).hasKey
        simp [setting, isKey, isKey']
      · rw [if_neg fun both => isNew both.2, List.filter_cons_of_neg (by simpa using isNew), ih]
    · rw [if_neg isEligible, if_neg fun both => isEligible both.1, ih]

theorem settings_eq (text : Text) :
    settings text = (firsts (eligible (Line.ofText text))).map setting := by
  rw [settings, kept_eq]
  congr 2
  exact List.filter_eq_self.mpr fun _ _ => decide_eq_true List.not_mem_nil

/-- The line of a variable is a line with the key and with a value that ends on it. -/
structure Setting.IsFlat (setting : Setting) : Prop where
  split : KeyedLine.splitKeyValue? setting.line = some (setting.key, written setting.value)
  isWritten : written setting.value = quoteMapping setting.value ∨
    written setting.value = doubleQuoted setting.value
  hasValue : written setting.value ≠ []
  ends : opensBlock (written setting.value) = false
  noMargin : ∀ c, setting.line.head? = some c → Text.isBlank c = false
  noMarker : LineFacts.isDashed setting.line = false

theorem written_eq (value : Text) :
    written value = quoteMapping value ∨ written value = doubleQuoted value := by
  unfold written
  dsimp only
  split
  · exact .inl rfl
  · exact .inr rfl

variable (member : facts ∈ eligible (Line.ofText text))
include member

theorem key_eq_setting : facts.key = some (setting facts).key := by
  obtain ⟨key, isKey⟩ := Option.isSome_iff_exists.mp (isEligible_of_mem member).hasKey
  rw [setting, isKey]
  rfl

/-- What is written for a value has no blanks at its ends, takes up one line and ends there. -/
theorem written_value :
    Text.trim (written facts.value) = written facts.value ∧ (written facts.value).IsLine ∧
      opensBlock (written facts.value) = false := by
  obtain ⟨key, body, -, split, isLine⟩ := exists_split_of_mem member
  have isLine := (Text.isLine_append.mp isLine).2
  obtain same | same := written_cases facts.value <;> rw [same]
  · exact ⟨(KeyedLine.splitKeyValue?_eq_some split).2.1, isLine, (isEligible_of_mem member).ends⟩
  · exact ⟨InlineValue.trim_doubleQuoted _, InlineValue.isLine_doubleQuoted isLine,
      InlineValue.opensBlock_doubleQuoted _⟩

theorem isFlat_setting : (setting facts).IsFlat := by
  obtain ⟨key, body, isKey, split, -⟩ := exists_split_of_mem member
  obtain ⟨trimmed, isLine, ends⟩ := written_value member
  have again : KeyedLine.splitKeyValue? (setting facts).line =
      some ((setting facts).key, written (setting facts).value) := by
    rw [setting, isKey]
    exact KeyedLine.splitKeyValue?_append split isLine trimmed
  obtain ⟨⟨rest, start⟩, -⟩ := KeyedLine.splitKeyValue?_eq_some again
  have head := KeyedLine.head_of_splitKey? start
  refine ⟨again, written_eq _, ?_, ends, fun c first => (head c first).1, ?_⟩
  · intro empty
    change written facts.value = [] at empty
    rw [empty] at ends
    cases ends
  · by_contra isDashed
    rw [Bool.not_eq_false, LineFacts.isDashed, Bool.or_eq_true, decide_eq_true_eq,
      List.isPrefixOf_iff_prefix] at isDashed
    have hyphen : (setting facts).line.head? = some '-' := by
      obtain same | ⟨tail, same⟩ := isDashed
      · rw [same]
        rfl
      · rw [← same]
        rfl
    exact (head '-' hyphen).2 rfl

theorem isLine_setting :
    (setting facts).line.IsLine ∧ (setting facts).line.getLast? ≠ some '\r' := by
  obtain ⟨key, body, isKey, -, isLine⟩ := exists_split_of_mem member
  obtain ⟨trimmed, isLine', ends⟩ := written_value member
  have whole : (setting facts).line = key ++ ": ".toList ++ written facts.value := by
    rw [Setting.line, setting, isKey]
    rfl
  rw [whole]
  refine ⟨Text.isLine_append.mpr ⟨Text.isLine_append.mpr ⟨(Text.isLine_append.mp isLine).1,
    by decide⟩, isLine'⟩, fun last => ?_⟩
  have notEmpty : written facts.value ≠ [] := by
    intro empty
    rw [empty] at ends
    cases ends
  rw [List.getLast?_append_of_ne_nil _ notEmpty, ← trimmed] at last
  exact absurd (Text.isBlank_getLast_trim last) (by decide)

omit member

/-- Lines that do not end with a carriage return are found again in the text. -/
theorem lines_unlines {all : List Text}
    (areLines : ∀ line ∈ all, line.IsLine ∧ line.getLast? ≠ some '\r') :
    Text.lines (Text.unlines all) = all := by
  induction all with
  | nil => rfl
  | cons line rest ih =>
    obtain ⟨isLine, noReturn⟩ := areLines line List.mem_cons_self
    rw [Text.unlines, List.flatMap_cons, List.append_assoc, List.singleton_append,
      Text.lines_append_feed isLine noReturn]
    exact congrArg _ (ih fun other member => areLines other (List.mem_cons_of_mem _ member))

/-! ## What is reported -/

/-- The reports of an eligible line, where the given ones come before it. -/
def reports (earlier : List LineFacts) (facts : LineFacts) : List Ambiguity :=
  let note (reason : AmbiguityReason) : Ambiguity := ⟨facts.line.number, facts.content, reason⟩
  if ∃ other ∈ earlier, other.key = facts.key then [note .duplicateVariable]
  else
    (if facts.indent > 0 then [note .nestedVariable] else []) ++
      if isReadable (quoteMapping facts.value) then [] else [note .unparseableValue]

/-- A line that gives no variable its value changes nothing. -/
theorem push_of_not_eligible {line : Line} (other : ¬ IsEligible (LineFacts.ofLine line))
    (state : State) : state.push line = state := by
  rw [← isVariable_iff, Bool.not_eq_true] at other
  unfold State.push
  dsimp only
  split
  · rfl
  · rw [other]
    rfl

theorem ambiguities_keep (state : State) (facts : LineFacts) (key : Text) :
    (state.keep facts key).ambiguities = state.ambiguities ++
      ((if facts.indent > 0 then [⟨facts.line.number, facts.content, .nestedVariable⟩] else []) ++
        if isReadable (quoteMapping facts.value) then []
        else [⟨facts.line.number, facts.content, .unparseableValue⟩]) := by
  unfold State.keep
  dsimp only
  by_cases nested : facts.indent > 0 <;> by_cases readable : isReadable (quoteMapping facts.value)
  · rw [if_pos nested, if_pos nested, if_pos readable, if_pos readable]
    rfl
  · rw [if_pos nested, if_pos nested, if_neg readable, if_neg readable]
    exact List.append_assoc ..
  · rw [if_neg nested, if_neg nested, if_pos readable, if_pos readable]
    exact (List.append_nil _).symm
  · rw [if_neg nested, if_neg nested, if_neg readable, if_neg readable]
    rfl

/-- Where the keys that have been seen are those of earlier lines, an eligible line is reported with
regard to these, and its key has been seen behind it. -/
theorem push_of_eligible {line : Line} (isEligible : IsEligible (LineFacts.ofLine line))
    {state : State} {earlier : List LineFacts}
    (seen : ∀ key, key ∈ state.seen ↔ ∃ facts ∈ earlier, facts.key = some key) :
    (∀ key, key ∈ (state.push line).seen ↔
      ∃ facts ∈ earlier ++ [LineFacts.ofLine line], facts.key = some key) ∧
    (state.push line).ambiguities = state.ambiguities ++ reports earlier (LineFacts.ofLine line) := by
  have isKept := isVariable_iff.mpr isEligible
  unfold State.push
  dsimp only
  generalize LineFacts.ofLine line = facts at isKept isEligible
  obtain ⟨own, isKey⟩ := Option.isSome_iff_exists.mp isEligible.hasKey
  have known := seen own
  simp only [isKey, isKept, Bool.not_true, Bool.false_eq_true, ↓reduceIte, reports,
    List.contains_eq_mem, decide_eq_true_eq, List.mem_append, List.mem_singleton]
  by_cases isSeen : own ∈ state.seen
  · rw [if_pos isSeen, if_pos (known.mp isSeen)]
    refine ⟨fun key => ?_, rfl⟩
    change key ∈ state.seen ↔ _
    rw [seen]
    constructor
    · rintro ⟨other, before, isOther⟩
      exact ⟨other, .inl before, isOther⟩
    · rintro ⟨other, before | rfl, isOther⟩
      · exact ⟨other, before, isOther⟩
      · obtain rfl : own = key := Option.some.inj (isKey.symm.trans isOther)
        exact known.mp isSeen
  · rw [if_neg isSeen, if_neg fun before => isSeen (known.mpr before), ambiguities_keep]
    refine ⟨fun key => ?_, rfl⟩
    rw [(lines_keep state facts own).2, List.mem_cons, seen]
    constructor
    · rintro (rfl | ⟨other, before, isOther⟩)
      · exact ⟨facts, .inr rfl, isKey⟩
      · exact ⟨other, .inl before, isOther⟩
    · rintro ⟨other, before | rfl, isOther⟩
      · exact .inr ⟨other, before, isOther⟩
      · exact .inl (Option.some.inj (isOther.symm.trans isKey))

/-- The keys that have been seen are those of the eligible lines, and each of these has been
reported with regard to those before it. -/
theorem run_eligible (lines : List Line) :
    let state := lines.foldl State.push {}
    (∀ key, key ∈ state.seen ↔ ∃ facts ∈ eligible lines, facts.key = some key) ∧
      state.ambiguities = (eligible lines).zipIdx.flatMap fun (facts, index) =>
        reports ((eligible lines).take index) facts := by
  induction lines using List.reverseRecOn with
  | nil => exact ⟨fun key => by simp [eligible], rfl⟩
  | append_singleton lines line ih =>
    rw [List.foldl_append, eligible_append]
    generalize lines.foldl State.push {} = state at ih
    obtain ⟨seen, reported⟩ := ih
    dsimp only at seen reported ⊢
    rw [List.foldl_cons, List.foldl_nil, eligible_cons]
    by_cases isEligible : IsEligible (LineFacts.ofLine line)
    · obtain ⟨seen', reported'⟩ := push_of_eligible isEligible seen
      rw [if_pos isEligible]
      refine ⟨seen', ?_⟩
      change _ = (eligible lines ++ [LineFacts.ofLine line]).zipIdx.flatMap fun (facts, index) =>
        reports ((eligible lines ++ [LineFacts.ofLine line]).take index) facts
      rw [reported', reported, List.zipIdx_append, List.flatMap_append]
      congr 1
      · apply List.flatMap_congr
        rintro ⟨facts, index⟩ numbered
        have before : index ≤ (eligible lines).length :=
          Nat.le_of_lt (List.snd_lt_of_mem_zipIdx numbered)
        dsimp only
        rw [List.take_append_of_le_length before]
      · change _ = reports ((eligible lines ++ [LineFacts.ofLine line]).take
          (0 + (eligible lines).length)) (LineFacts.ofLine line) ++ []
        rw [Nat.zero_add, List.take_left', List.append_nil]
        rfl
    · rw [if_neg isEligible, push_of_not_eligible isEligible, show eligible [] = [] from rfl,
        List.append_nil]
      exact ⟨seen, reported⟩

end VarsRebuild

open VarsRebuild in
/-- **The rebuilt variables are flat.** -/
theorem rebuildVars_flat (text : Text) :
    let source := eligible (Line.ofText text)
    let output := "---".toList :: (firsts source).map fun facts => (setting facts).line
    (rebuildVars text).text = Text.unlines output ∧
      Text.lines (rebuildVars text).text = output ∧
      (firsts source).map LineFacts.key = (source.map LineFacts.key).eraseDups ∧
      (∀ facts ∈ firsts source, source.find? (fun other => other.key = facts.key) = some facts ∧
        facts.key = some (setting facts).key ∧ (setting facts).IsFlat) ∧
      (rebuildVars text).ambiguities = source.zipIdx.flatMap fun (facts, index) =>
        reports (source.take index) facts := by
  intro source output
  have isSource : ∀ facts ∈ firsts source, facts ∈ eligible (Line.ofText text) :=
    fun facts member => firsts_subset source member
  have shown : (rebuildVars text).text = Text.unlines output := by
    rw [text_rebuildVars, settings_eq, List.map_map]
    rfl
  refine ⟨shown, ?_, map_key_firsts source, fun facts member => ?_, ?_⟩
  · rw [shown]
    refine lines_unlines (List.forall_mem_cons.mpr ⟨by decide, List.forall_mem_map.mpr ?_⟩)
    exact fun facts member => isLine_setting (isSource facts member)
  · have isEligible := isSource facts member
    exact ⟨find?_firsts source facts member, key_eq_setting isEligible, isFlat_setting isEligible⟩
  · exact (run_eligible (Line.ofText text)).2

example : (rebuildVars "a: 1\n  b: x: y\n- c: 2\na: 3\n".toList).text =
    "---\na: 1\nb: \"x: y\"\n".toList := by
  decide +kernel

end PlaybookRepair
