import PlaybookRepair.Proofs.Rebuild.FlatVars
import PlaybookRepair.Proofs.Yaml.SingleEntry

/-!
# Lines of a key and its value

A line with a key is written as the key and its value. The key is found again on the written line,
and so is the value in its quotes (`splitKeyValue?_keyedText`). Quotes close a value: behind them no
lines below belong to the key any more. The header of a block scalar never gets quotes, but a comment
that stands in place of a value does if it holds the sign of a mapping (`HoldsColon`), and then the
key loses the lines below it. Those are the only keys for which this changes
(`opensBlock_quoteMapping`).

For YAML, too, a value in quotes is the value as it stands. Whether it needs the quotes is decided
without its comment, but they are put around the comment as well, which then is read as a part of the
string (`readSingle_quoteMapping`).
-/

namespace PlaybookRepair

namespace InlineValue

/-- Whether a value holds the sign of a mapping before its comment: a colon before a space, or at the
end. -/
def HoldsColon (value : Text) : Prop :=
  Text.holds ": ".toList (withoutComment value) ∨ (withoutComment value).getLast? = some ':'

instance (value : Text) : Decidable (HoldsColon value) :=
  inferInstanceAs (Decidable (_ ∨ _))

theorem mem_of_holdsColon {value : Text} (colon : HoldsColon value) : ':' ∈ withoutComment value := by
  obtain inside | last := colon
  · generalize withoutComment value = content at inside
    induction content with
    | nil => cases inside
    | cons c rest ih =>
      rw [Text.holds, Bool.or_eq_true, List.isPrefixOf_iff_prefix] at inside
      obtain ⟨tail, first⟩ | later := inside
      · rw [← first]
        exact List.mem_cons_self
      · exact List.mem_cons_of_mem _ (ih later)
  · exact List.mem_of_getLast? last

/-- A value that starts neither with a quote nor with a bracket is quoted exactly if it holds the
sign of a mapping. -/
theorem quoteMapping_of_not_isStructured {value : Text} (plain : isStructured value = false) :
    quoteMapping value = if HoldsColon value then doubleQuoted value else value := by
  have noTemplate : quoteTemplate value = value := by
    rw [quoteTemplate, if_neg]
    rw [List.isPrefixOf_iff_prefix]
    rintro ⟨tail, rfl⟩
    cases plain
  rw [quoteMapping, plain, noTemplate]
  simp only [Bool.not_false, Bool.true_and, Bool.or_eq_true, decide_eq_true_eq]
  exact if_congr Iff.rfl rfl rfl

/-- The header of a block scalar has no colon and does not start as a structured value. -/
theorem quoteMapping_of_isBlockIndicator {value : Text} (isHeader : isBlockIndicator value) :
    quoteMapping value = value := by
  unfold isBlockIndicator at isHeader
  split at isHeader
  · next c rest content =>
    rw [Bool.and_eq_true, Bool.or_eq_true, decide_eq_true_eq, decide_eq_true_eq,
      List.all_eq_true] at isHeader
    obtain ⟨sign, signs⟩ := isHeader
    have first : value.head? = some c := by
      obtain ⟨tail, whole⟩ :=
        (Text.trimEnd_isPrefixOf _).trans (before_isPrefixOf " #".toList value)
      change withoutComment value ++ tail = value at whole
      rw [← whole, content]
      rfl
    have plain : isStructured value = false := by
      rw [isStructured, first]
      obtain rfl | rfl := sign <;> rfl
    rw [quoteMapping_of_not_isStructured plain, if_neg]
    intro colon
    have member := mem_of_holdsColon colon
    rw [content, List.mem_cons] at member
    obtain rfl | later := member
    · obtain same | same := sign <;> cases same
    · exact absurd (signs ':' later) (by decide)
  · cases isHeader

/-- Quotes take the lines below from exactly those keys with a comment in place of a value that holds
the sign of a mapping. -/
theorem opensBlock_quoteMapping (value : Text) :
    opensBlock (quoteMapping value) = opensBlock value ↔
      ¬ (value.head? = some '#' ∧ HoldsColon value) := by
  by_cases isComment : value.head? = some '#'
  · have opens : opensBlock value = true := by
      rw [opensBlock, decide_eq_true isComment, Bool.or_true, Bool.true_or]
    have plain : isStructured value = false := by
      rw [isStructured, isComment]
      rfl
    rw [quoteMapping_of_not_isStructured plain, opens]
    by_cases colon : HoldsColon value
    · rw [if_pos colon, opensBlock_doubleQuoted]
      exact iff_of_false Bool.false_ne_true fun kept => kept ⟨isComment, colon⟩
    · rw [if_neg colon]
      exact iff_of_true opens fun both => colon both.2
  refine iff_of_true ?_ fun both => isComment both.1
  by_cases isEmpty : value = []
  · rw [isEmpty]
    decide
  by_cases isHeader : isBlockIndicator value
  · rw [quoteMapping_of_isBlockIndicator isHeader]
  have closed : opensBlock value = false := by
    rw [opensBlock, List.isEmpty_eq_false_iff.mpr isEmpty, decide_eq_false isComment]
    simpa using isHeader
  obtain same | same := VarsRebuild.quoteMapping_cases value <;> rw [same, closed]
  exact opensBlock_doubleQuoted value

end InlineValue

open InlineValue (HoldsColon opensBlock quoteMapping)

/-- A written key is found again, with its value as it has been written. -/
theorem LineToken.splitKeyValue?_keyedText {token : LineToken} {key body : Text}
    (hasKey : token.key = some key)
    (split : KeyedLine.splitKeyValue? body = some (key, token.value)) :
    KeyedLine.splitKeyValue? token.keyedText = some (key, quoteMapping token.value) := by
  obtain ⟨⟨rest, isKey⟩, trimmed, isLine⟩ := KeyedLine.splitKeyValue?_eq_some split
  rw [LineToken.keyedText, hasKey]
  dsimp only [Option.getD_some]
  split
  · next isEmpty =>
    rw [List.isEmpty_iff.mp isEmpty, KeyedLine.splitKeyValue?,
      KeyedLine.splitKey?_append_colon isKey]
    rfl
  · refine KeyedLine.splitKeyValue?_append split (InlineValue.isLine_quoteMapping isLine) ?_
    obtain same | same := VarsRebuild.quoteMapping_cases token.value <;> rw [same]
    · exact trimmed
    · exact InlineValue.trim_doubleQuoted _

/-- **A written key is the key of its line, and owns the lines below it if the line does.** The only
keys that lose the lines below them have a comment in place of a value that holds the sign of a
mapping. -/
theorem splitKeyValue?_keyedText_classify (line : Line) (around : Surroundings) (key : Text)
    (hasKey : (LineToken.classify line around).key = some key) :
    let token := LineToken.classify line around
    ∃ value, KeyedLine.splitKeyValue? token.keyedText = some (key, value) ∧
      (opensBlock value = token.opensBlock ↔
        ¬ (token.value.head? = some '#' ∧ HoldsColon token.value)) := by
  intro token
  have split := LineFacts.splitKeyValue?_body hasKey
  refine ⟨quoteMapping token.value, LineToken.splitKeyValue?_keyedText hasKey split, ?_⟩
  have opens : token.opensBlock = opensBlock token.value := by
    rw [LineToken.opensBlock, hasKey]
    rfl
  rw [opens]
  exact InlineValue.opensBlock_quoteMapping token.value

/-- A header of a block scalar with a comment that holds the sign of a mapping. -/
theorem splitKeyValue?_keyedText_header :
    let token := LineToken.classify ⟨3, "    shell : |-  # first: setup".toList⟩
      { kind := .playbook, playOpen := true, taskIndent := some 2 }
    token.key = some "shell".toList ∧ token.opensBlock ∧
      ∃ value, KeyedLine.splitKeyValue? token.keyedText = some ("shell".toList, value) ∧
        opensBlock value = token.opensBlock := by
  intro token
  have hasKey : token.key = some "shell".toList := by decide +kernel
  have noComment : ¬ (token.value.head? = some '#' ∧ HoldsColon token.value) := by decide +kernel
  obtain ⟨value, again, opens⟩ := splitKeyValue?_keyedText_classify _ _ _ hasKey
  exact ⟨hasKey, by decide +kernel, value, again, opens.mpr noComment⟩

/-- A list of tasks that is lost behind a comment. -/
theorem splitKeyValue?_keyedText_lost :
    let token := LineToken.classify ⟨2, "  tasks: # first: setup".toList⟩
      { kind := .playbook, playOpen := true }
    token.key = some "tasks".toList ∧ token.opensBlock ∧
      token.keyedText = "tasks: \"# first: setup\"".toList ∧
      ¬ ∃ value, KeyedLine.splitKeyValue? token.keyedText = some ("tasks".toList, value) ∧
        opensBlock value = token.opensBlock := by
  intro token
  have opens : token.opensBlock = true := by decide +kernel
  refine ⟨by decide +kernel, opens, by decide +kernel, ?_⟩
  rintro ⟨value, again, same⟩
  have found : KeyedLine.splitKeyValue? token.keyedText =
      some ("tasks".toList, "\"# first: setup\"".toList) := by decide +kernel
  obtain rfl : "\"# first: setup\"".toList = value := by simpa [found] using again
  rw [opens] at same
  exact absurd same (by decide)

/-! ## What YAML reads -/

namespace Text

theorem before_eq_self_iff {piece text : Text} (nonempty : piece ≠ []) :
    before piece text = text ↔ holds piece text = false := by
  induction text with
  | nil => simpa [before, holds] using nonempty
  | cons c rest ih =>
    rw [before, holds, Bool.or_eq_false_iff]
    by_cases found : piece.isPrefixOf (c :: rest)
    · simp [found]
    · simp [found, ih]

end Text

/-- A trimmed value has no comment exactly if no number sign comes after a space. -/
theorem InlineValue.withoutComment_eq_self_iff {value : Text} (trimmed : Text.trim value = value) :
    withoutComment value = value ↔ Text.holds " #".toList value = false := by
  have nonempty : " #".toList ≠ [] := by decide
  rw [← Text.before_eq_self_iff nonempty]
  constructor
  · intro same
    refine (before_isPrefixOf _ value).eq_of_length_le ?_
    calc value.length = (withoutComment value).length := by rw [same]
      _ ≤ (Text.before " #".toList value).length := (Text.trimEnd_isPrefixOf _).length_le
  · intro same
    rw [withoutComment, same, ← trimmed, Text.trimEnd_trim]

open InlineValue (withoutComment doubleQuoted)
open Yaml (Word isAllowed isBreak readSingle)

/-- **A value that gets quotes is read whole.** So it is read without its comment exactly if it has
none. -/
theorem readSingle_quoteMapping {key value : Text} (named : KeyedLine.isName key)
    (short : key.length ≤ Yaml.maxKeyLength) (isString : Yaml.Scalar.resolve key = .ok (.string key))
    (onOneLine : ∀ c ∈ key ++ value, isAllowed c ∧ isBreak c = false)
    (trimmed : Text.trim value = value) (quoted : quoteMapping value ≠ value) :
    let written := key ++ ": ".toList ++ quoteMapping value
    readSingle written = .ok (.mapping [(.string key, .string value)]) ∧
      (readSingle written = .ok (.mapping [(.string key, .string (withoutComment value))]) ↔
        Text.holds " #".toList value = false) := by
  intro written
  obtain ⟨allowedKey, allowedValue⟩ := List.forall_mem_append.mp onOneLine
  have isKey : (Word.plain key).IsWritten key :=
    Word.isWritten_plain (Yaml.TokenReader.isKey_of_isName named short) isString
  have same : quoteMapping value = doubleQuoted value :=
    (VarsRebuild.quoteMapping_cases value).resolve_left quoted
  have allowed : ∀ c ∈ key ++ doubleQuoted value, isAllowed c := by
    refine List.forall_mem_append.mpr ⟨fun c member => (allowedKey c member).1, fun c member => ?_⟩
    obtain own | rfl | rfl := InlineValue.mem_of_mem_doubleQuoted member
    · exact (allowedValue c own).1
    · decide
    · decide
  have reads : readSingle written = .ok (.mapping [(.string key, .string value)]) := by
    have pair := Yaml.readSingle_pair isKey
      (Yaml.spells_doubleQuoted fun c member => (allowedValue c member).2) allowed
    rw [← same] at pair
    exact pair
  refine ⟨reads, ?_⟩
  rw [reads, ← InlineValue.withoutComment_eq_self_iff trimmed]
  simp [eq_comm]

/-- A template, quotes, a backslash and a number sign that starts no comment. -/
theorem readSingle_quoteMapping_template :
    let key := "when".toList
    let value := "\x7b\x7b a \x7d\x7d: \"x\\y\" a#b".toList
    KeyedLine.isName key ∧ key.length ≤ Yaml.maxKeyLength ∧
      Yaml.Scalar.resolve key = .ok (.string key) ∧
      (∀ c ∈ key ++ value, isAllowed c ∧ isBreak c = false) ∧ Text.trim value = value ∧
      quoteMapping value ≠ value ∧
      readSingle (key ++ ": ".toList ++ quoteMapping value) =
        .ok (.mapping [(.string key, .string (withoutComment value))]) := by
  intro key value
  have named : KeyedLine.isName key := by decide +kernel
  have short : key.length ≤ Yaml.maxKeyLength := by decide +kernel
  have isString : Yaml.Scalar.resolve key = .ok (.string key) := rfl
  have onOneLine : ∀ c ∈ key ++ value, isAllowed c ∧ isBreak c = false := by decide +kernel
  have trimmed : Text.trim value = value := by decide +kernel
  have quoted : quoteMapping value ≠ value := by decide +kernel
  exact ⟨named, short, isString, onOneLine, trimmed, quoted,
    (readSingle_quoteMapping named short isString onOneLine trimmed quoted).2.mpr
      (by decide +kernel)⟩

/-- A comment that becomes a part of its value. -/
theorem readSingle_quoteMapping_comment :
    let value := "Step 1: go # note".toList
    Text.trim value = value ∧ withoutComment value = "Step 1: go".toList ∧
      quoteMapping value ≠ value ∧
      readSingle ("k: ".toList ++ quoteMapping value) ≠
        .ok (.mapping [(.string "k".toList, .string (withoutComment value))]) := by
  intro value
  refine ⟨by decide +kernel, by decide +kernel, by decide +kernel, fun reads => ?_⟩
  have isKey : (Word.plain "k".toList).IsWritten "k".toList :=
    Word.isWritten_plain (Yaml.TokenReader.isKey_of_isName (by decide) (by decide)) rfl
  have unbroken : ∀ c ∈ value, isBreak c = false := by decide +kernel
  have allowed : ∀ c ∈ "k".toList ++ doubleQuoted value, isAllowed c := by decide +kernel
  have whole := Yaml.readSingle_pair isKey (Yaml.spells_doubleQuoted unbroken) allowed
  have same : withoutComment value = value := by
    simpa [Word.plain] using reads.symm.trans whole
  exact absurd same (by decide +kernel)

end PlaybookRepair
