import PlaybookRepair.Proofs.SecondRepair
import PlaybookRepair.Proofs.Yaml.Word
import PlaybookRepair.VarsRebuild

/-!
# Variables that read back

A file of variables is rebuilt as a mapping with a line for each variable that is kept
(`text_rebuildVars`). Whether a value can stand behind a key is tried out for each value on its own; a
scalar on one line reads the same behind every other key. The rebuilt file is therefore accepted if
the lines are clean, that is, if their keys and values are scalars of characters that YAML allows, and
if no two keys are the same (`accepts_rebuildVars`). The keys are kept as they are spelled, so the last
condition can fail (`rebuildVars_rejected`).
-/

namespace PlaybookRepair

open Yaml (LaidEntry Phrase Value Word hanging isAllowed isBreak word?)

namespace VarsRebuild

/-! ## The variables that are kept -/

/-- A variable: its key and its value as they stand on a line. -/
structure Setting where
  key : Text
  value : Text

/-- The variables of the lines that are kept after the given keys have been seen. -/
def kept (seen : List Text) : List Line → List Setting
  | [] => []
  | line :: lines =>
    let facts := LineFacts.ofLine line
    match facts.key with
    | none => kept seen lines
    | some key =>
      if isVariable facts && !seen.contains key then
        ⟨key, facts.value⟩ :: kept (key :: seen) lines
      else kept seen lines

/-- The variables of a text that are kept. -/
def settings (text : Text) : List Setting := kept [] (Line.ofText text)

/-- A value as it is written. -/
def written (value : Text) : Text :=
  let quoted := InlineValue.quoteMapping value
  if isReadable quoted then quoted else InlineValue.doubleQuoted value

/-- The line of a variable. -/
def Setting.line (setting : Setting) : Text :=
  setting.key ++ ": ".toList ++ written setting.value

theorem lines_keep (state : State) (facts : LineFacts) (key : Text) :
    (state.keep facts key).lines = state.lines ++ [Setting.line ⟨key, facts.value⟩] ∧
      (state.keep facts key).seen = key :: state.seen := by
  simp only [State.keep, State.note, Setting.line, written]
  split_ifs <;> exact ⟨rfl, rfl⟩

theorem lines_foldl_push (lines : List Line) :
    ∀ state : State, (lines.foldl State.push state).lines =
      state.lines ++ (kept state.seen lines).map Setting.line := by
  induction lines with
  | nil =>
    intro state
    exact (List.append_nil _).symm
  | cons line lines ih =>
    intro state
    rw [List.foldl_cons, ih, State.push, kept]
    cases (LineFacts.ofLine line).key with
    | none => rfl
    | some key =>
      by_cases isKept : isVariable (LineFacts.ofLine line)
      · by_cases isSeen : state.seen.contains key
        · simp only [isKept, isSeen, Bool.not_true, Bool.and_false, Bool.false_eq_true, ↓reduceIte]
          rfl
        · obtain ⟨line, seen⟩ := lines_keep state (LineFacts.ofLine line) key
          simp only [isKept, isSeen, Bool.not_true, Bool.not_false, Bool.and_self,
            Bool.false_eq_true, ↓reduceIte, line, seen, List.map_cons, List.append_assoc,
            List.singleton_append]
      · simp only [isKept, Bool.not_false, Bool.false_and, Bool.false_eq_true, ↓reduceIte]

/-- The rebuilt text is the lines of the variables that are kept. -/
theorem text_rebuildVars (text : Text) :
    (rebuildVars text).text = Text.unlines ("---".toList :: (settings text).map Setting.line) :=
  congrArg Text.unlines (lines_foldl_push (Line.ofText text) {})

/-- A setting is the key and the value of a line. -/
theorem exists_split_of_mem_kept {setting : Setting} {lines : List Line} :
    ∀ {seen : List Text}, setting ∈ kept seen lines →
      ∃ body, KeyedLine.splitKeyValue? body = some (setting.key, setting.value) := by
  induction lines with
  | nil => exact nofun
  | cons line lines ih =>
    intro seen member
    rw [kept] at member
    cases key : (LineFacts.ofLine line).key with
    | none => exact ih (by simpa only [key] using member)
    | some own =>
      simp only [key] at member
      split_ifs at member with isKept
      · obtain rfl | member := List.mem_cons.mp member
        · exact ⟨_, LineFacts.splitKeyValue?_body key⟩
        · exact ih member
      · exact ih member

end VarsRebuild

namespace KeyedLine

/-- A key is a name or a text between quotes. -/
theorem key_cases {body key rest : Text} (split : splitKey? body = some (key, rest)) :
    isName key ∨ ∃ quote inside, (quote = '"' ∨ quote = '\'') ∧ key = quote :: inside := by
  have quoted : ∀ {quote : Char} {text : Text}, splitQuotedKey? quote text = some (key, rest) →
      ∃ inside, key = quote :: inside := by
    intro quote text split
    unfold splitQuotedKey? at split
    dsimp only at split
    split at split
    · split at split
      · cases split
      · cases split
        exact ⟨_, rfl⟩
    · cases split
  unfold splitKey? at split
  split at split
  · obtain ⟨inside, same⟩ := quoted split
    exact .inr ⟨_, inside, .inl rfl, same⟩
  · obtain ⟨inside, same⟩ := quoted split
    exact .inr ⟨_, inside, .inr rfl, same⟩
  · split at split
    next start =>
      cases split
      refine .inl (Bool.and_eq_true_iff.mpr ⟨start, List.all_eq_true.mpr ?_⟩)
      exact fun c member => List.mem_takeWhile_imp member
    · cases split
  · cases split

/-- The key of a body is a name or stands between quotes. -/
theorem keyOfValue_cases {body key value : Text} (split : splitKeyValue? body = some (key, value)) :
    isName key ∨ ∃ quote inside, (quote = '"' ∨ quote = '\'') ∧ key = quote :: inside := by
  obtain ⟨⟨rest, isKey⟩, -⟩ := splitKeyValue?_eq_some split
  exact key_cases isKey

end KeyedLine

namespace VarsRebuild

open Yaml (Follows)

/-! ## Settings that can be read -/

/-- Whether YAML can read the line of a setting. -/
structure Setting.IsClean (setting : Setting) : Prop where
  /-- The setting is on one line for YAML, too, which allows its characters. -/
  onOneLine : ∀ c ∈ setting.key ++ setting.value, isAllowed c ∧ isBreak c = false
  short : setting.key.length ≤ Yaml.maxKeyLength
  isKey : (word? setting.key).isSome
  /-- Its value is written between double quotes, or it is a scalar as it stands. -/
  isScalar : written setting.value = InlineValue.doubleQuoted setting.value ∨
    written setting.value = setting.value ∧ (word? setting.value).isSome

instance (setting : Setting) : Decidable setting.IsClean :=
  decidable_of_iff
    ((∀ c ∈ setting.key ++ setting.value, isAllowed c ∧ isBreak c = false) ∧
      setting.key.length ≤ Yaml.maxKeyLength ∧ (word? setting.key).isSome ∧
      (written setting.value = InlineValue.doubleQuoted setting.value ∨
        written setting.value = setting.value ∧ (word? setting.value).isSome))
    ⟨fun ⟨onOneLine, short, isKey, isScalar⟩ => ⟨onOneLine, short, isKey, isScalar⟩,
      fun clean => ⟨clean.onOneLine, clean.short, clean.isKey, clean.isScalar⟩⟩

variable {text : Text} {setting : Setting} {word : Word}

theorem unbroken_value (clean : setting.IsClean) : ∀ c ∈ setting.value, isBreak c = false :=
  fun c member => (clean.onOneLine c (List.mem_append_right _ member)).2

/-- The key of a clean setting can be written before a colon. -/
theorem isWritten_key (member : setting ∈ settings text) (clean : setting.IsClean)
    (found : word? setting.key = some word) : word.IsWritten setting.key := by
  obtain ⟨body, split⟩ := exists_split_of_mem_kept member
  have spells : word.Spells setting.key := Yaml.spells_of_word?
    (fun c member => (clean.onOneLine c (List.mem_append_left _ member)).2) found
  refine spells.isWritten clean.short ?_
  obtain named | ⟨quote, inside, rfl | rfl, same⟩ := KeyedLine.keyOfValue_cases split
  · exact (Yaml.TokenReader.isKey_of_isName named clean.short).head
  · rw [same]
    exact ⟨by simp, by simp, by simp⟩
  · rw [same]
    exact ⟨by simp, by simp, by simp⟩

/-! ## Values -/

theorem quoteMapping_cases (value : Text) :
    InlineValue.quoteMapping value = value ∨
      InlineValue.quoteMapping value = InlineValue.doubleQuoted value := by
  unfold InlineValue.quoteMapping InlineValue.quoteTemplate
  dsimp only
  split_ifs <;> simp

theorem written_cases (value : Text) :
    written value = value ∨ written value = InlineValue.doubleQuoted value := by
  unfold written
  dsimp only
  split_ifs
  · exact quoteMapping_cases value
  · exact .inr rfl

theorem onOneLine_written (clean : setting.IsClean) :
    ∀ c ∈ written setting.value, isAllowed c ∧ isBreak c = false := by
  intro c member
  have own : ∀ c ∈ setting.value, isAllowed c ∧ isBreak c = false := fun c member =>
    clean.onOneLine c (List.mem_append_right _ member)
  obtain same | same := written_cases setting.value <;> rw [same] at member
  · exact own c member
  · obtain member | rfl | rfl := InlineValue.mem_of_mem_doubleQuoted member
    · exact own c member
    · decide
    · decide

/-- What is written for a clean setting is a value. -/
theorem exists_follows_written (clean : setting.IsClean) :
    ∃ word : Word, word.Resolves ∧
      Follows 0 0 (' ' :: written setting.value ++ ['\n']) (.word word) := by
  obtain same | ⟨same, isScalar⟩ := clean.isScalar <;> rw [same]
  · exact ⟨⟨setting.value, .doubleQuoted, .string setting.value⟩, by
      simp [Word.Resolves, Yaml.Scalar.value], Yaml.follows_doubleQuoted (unbroken_value clean)⟩
  · obtain ⟨word, found⟩ := Option.isSome_iff_exists.mp isScalar
    have spells := Yaml.spells_of_word? (unbroken_value clean) found
    exact ⟨word, spells.resolves, spells.follows⟩

/-! ## The rebuilt text -/

/-- Each clean setting is an entry of a mapping. -/
theorem exists_entry (member : setting ∈ settings text) (clean : setting.IsClean) :
    ∃ entry : LaidEntry, entry.IsLaid 0 0 ∧ entry.value.IsValue 127 ∧
      entry.lines = setting.line ++ ['\n'] ∧ word? setting.key = some entry.scalar := by
  obtain ⟨key, found⟩ := Option.isSome_iff_exists.mp clean.isKey
  obtain ⟨word, resolves, follows⟩ := exists_follows_written clean
  have sound := (Phrase.isSound_word resolves).mono (Nat.zero_le 127)
  refine ⟨⟨setting.key, key, ' ' :: written setting.value ++ ['\n'], .word word⟩,
    ⟨isWritten_key member clean found, ⟨by simp, by rintro _ ⟨⟩; decide⟩, follows⟩,
    sound.toIsValue, ?_, found⟩
  simp [LaidEntry.lines, Setting.line]

/-- The lines of the settings as the layout of entries with these lines. -/
theorem unlines_settings {entry : Setting → LaidEntry} {settings : List Setting}
    (lines : ∀ setting ∈ settings, (entry setting).lines = setting.line ++ ['\n']) :
    Text.unlines ("---".toList :: settings.map Setting.line) =
      "---\n".toList ++ hanging 0 ((settings.map entry).map LaidEntry.lines) := by
  have below : hanging 0 ((settings.map entry).map LaidEntry.lines) =
      (settings.map Setting.line).flatMap (· ++ ['\n']) := by
    have same : (settings.map entry).map LaidEntry.lines =
        (settings.map Setting.line).map (· ++ ['\n']) := by
      simpa using lines
    rw [same]
    cases settings with
    | nil => rfl
    | cons first later => simp [hanging, List.flatMap_map]
  rw [below]
  rfl

/-- YAML allows the characters of the lines of clean settings. -/
theorem allowed_line (clean : setting.IsClean) : ∀ c ∈ setting.line, isAllowed c := by
  simp only [Setting.line, List.forall_mem_append]
  exact ⟨⟨fun c member => (clean.onOneLine c (List.mem_append_left _ member)).1, by decide⟩,
    fun c member => (onOneLine_written clean c member).1⟩

end VarsRebuild

open VarsRebuild in
/-- **The rebuilt variables are accepted.** -/
theorem accepts_rebuildVars (text : Text) (clean : ∀ setting ∈ settings text, setting.IsClean)
    (distinct : (settings text).Pairwise fun first later =>
      ∀ key ∈ word? first.key, ∀ other ∈ word? later.key,
        key.value.same other.value = false) :
    FileKind.vars.accepts (rebuildVars text).text ∧
      ∀ defaults path, FileKind.detect path text = .vars →
        (repair defaults path text).status ≠ .failed := by
  have accepted : FileKind.vars.accepts (rebuildVars text).text := by
    rw [text_rebuildVars]
    by_cases empty : settings text = []
    · rw [empty]
      decide +kernel
    have : Nonempty LaidEntry := ⟨Yaml.laidString [] []⟩
    have entries : ∀ setting ∈ settings text, ∃ entry : LaidEntry, entry.IsLaid 0 0 ∧
        entry.value.IsValue 127 ∧ entry.lines = setting.line ++ ['\n'] ∧
        word? setting.key = some entry.scalar :=
      fun setting member => exists_entry member (clean setting member)
    choose! entry laid sound lines keys using entries
    have layout := unlines_settings lines
    have isLaid : ∀ part ∈ (settings text).map entry, part.IsLaid 0 0 :=
      List.forall_mem_map.mpr laid
    have sound : (Phrase.mapping (((settings text).map entry).map LaidEntry.pair)).IsSound 128 := by
      refine Yaml.isSound_entries isLaid ?_ (List.forall_mem_map.mpr sound)
      refine List.pairwise_map.mpr (distinct.imp_of_mem fun first later apart => ?_)
      exact apart _ (keys _ first) _ (keys _ later)
    have allowed : ∀ c ∈ Text.unlines ("---".toList :: (settings text).map Setting.line),
        isAllowed c := by
      refine Yaml.allowed_unlines (List.forall_mem_cons.mpr ⟨by decide, ?_⟩)
      exact List.forall_mem_map.mpr fun setting member => allowed_line (clean setting member)
    rw [layout] at allowed ⊢
    obtain ⟨document, documents, value⟩ := Yaml.documents_eq_of_isLaid isLaid
      (by simpa using empty) sound (Nat.le_refl _)
      fun c member => allowed c (List.mem_append_right _ member)
    rw [FileKind.accepts_iff, FileKind.verify, documents]
    simp only [FileKind.checkDocuments, value]
    rfl
  refine ⟨accepted, fun defaults path vars => ?_⟩
  apply repair_status_ne_failed defaults .fullRebuild <;> rw [vars]
  · exact List.mem_cons_self
  · exact accepted

open VarsRebuild in
/-- A number, a quoted key, and values that need quotes. -/
theorem accepts_rebuildVars_nested :
    let text := "db:\n  port: 5432\n\"a b\": x: y\nlist: [1, 2\n".toList
    (∀ setting ∈ settings text, setting.IsClean) ∧
      (settings text).Pairwise (fun first later =>
        ∀ key ∈ word? first.key, ∀ other ∈ word? later.key,
          key.value.same other.value = false) ∧
      FileKind.vars.accepts (rebuildVars text).text := by
  intro text
  have clean : ∀ setting ∈ settings text, setting.IsClean := by decide +kernel
  have distinct : (settings text).Pairwise fun first later =>
      ∀ key ∈ word? first.key, ∀ other ∈ word? later.key,
        key.value.same other.value = false := by decide +kernel
  exact ⟨clean, distinct, (accepts_rebuildVars text clean distinct).1⟩

/-- Two spellings of one key are kept. -/
theorem rebuildVars_rejected :
    FileKind.vars.accepts (rebuildVars "a: 1\n\"a\": 2\n".toList).text = false := by
  decide +kernel

end PlaybookRepair
