import PlaybookRepair.Proofs.Rebuild.Meta
import PlaybookRepair.Proofs.Yaml.Escapes
import PlaybookRepair.Proofs.Yaml.SingleEntry

/-!
# Fields that are kept

A field of the metadata is kept from the first line that has its key and a value. The value is taken
off the line without its quotes and trimmed, and written anew; it is never read as YAML. If the value
is one scalar on the line, up to its end, the field keeps its meaning exactly if nothing is escaped in
the scalar and its string has no blanks at its ends (`entry?_rebuildMeta_iff`). Behind a scalar a
comment may stand, which then becomes a part of the field (`entry?_rebuildMeta_comment`).
-/

namespace PlaybookRepair

open InlineValue (IsFaithful stripQuotes)
open Yaml (HasEscapes Value Word isAllowed isBreak readSingle word?)

/-- Whether a value is one scalar that YAML can read on the line, up to its end. -/
structure InlineValue.IsScalar (value : Text) : Prop where
  onOneLine : ∀ c ∈ value, isAllowed c ∧ isBreak c = false
  isWord : (word? value).isSome

instance (value : Text) : Decidable (InlineValue.IsScalar value) :=
  decidable_of_iff ((∀ c ∈ value, isAllowed c ∧ isBreak c = false) ∧ (word? value).isSome)
    ⟨fun both => ⟨both.1, both.2⟩, fun scalar => ⟨scalar.onOneLine, scalar.isWord⟩⟩

/-- What YAML reads in a text under the given keys, the outermost first. -/
def Yaml.valueAt? (keys : List Text) (text : Text) : Option Value :=
  (readSingle text).toOption.bind fun value => keys.foldlM (fun value key => value.entry? key) value

instance (found : Option Value) (text : Text) : Decidable (found = some (.string text)) :=
  match found with
  | some (.string other) => decidable_of_iff (other = text) (by simp)
  | none | some .null | some (.bool _) | some (.number _) | some (.sequence _) | some (.mapping _)
  | some (.tagged _ _) => isFalse nofun

open Yaml (valueAt?)

namespace InlineValue.IsScalar

variable {value : Text} (scalar : InlineValue.IsScalar value)
include scalar

/-- A scalar is read behind a key as it is on its own. -/
theorem readSingle_eq {word : Word} (found : word? value = some word) :
    readSingle ("value: ".toList ++ value) =
      .ok (.mapping [(.string "value".toList, word.value)]) := by
  have isKey : (Word.plain "value".toList).IsWritten "value".toList :=
    Word.isWritten_plain (Yaml.TokenReader.isKey_of_isName (by decide) (by decide)) rfl
  have allowed : ∀ c ∈ "value".toList ++ value, isAllowed c :=
    List.forall_mem_append.mpr ⟨by decide, fun c member => (scalar.onOneLine c member).1⟩
  have spells := Yaml.spells_of_word? (fun c member => (scalar.onOneLine c member).2) found
  have key : (Word.plain "value".toList).value = .string "value".toList := rfl
  have whole : "value: ".toList = "value".toList ++ ": ".toList := by decide
  rw [whole, Yaml.readSingle_pair isKey spells allowed, key]

theorem exists_spells {string : Text}
    (reads : valueAt? ["value".toList] ("value: ".toList ++ value) = some (.string string)) :
    ∃ word : Word, word.Spells value ∧ word.value = .string string := by
  obtain ⟨word, found⟩ := Option.isSome_iff_exists.mp scalar.isWord
  refine ⟨word, Yaml.spells_of_word? (fun c member => (scalar.onOneLine c member).2) found, ?_⟩
  rw [valueAt?, scalar.readSingle_eq found] at reads
  exact Option.some.inj reads

end InlineValue.IsScalar

namespace MetaField

theorem key_injective {field other : MetaField} (same : field.key = other.key) : field = other := by
  have distinct : ∀ field other : MetaField, field.key = other.key → field = other := by
    intro field other
    cases field <;> cases other <;> decide
  exact distinct field other same

theorem mem_all (field : MetaField) : field ∈ all := by
  cases field <;> decide

theorem valueIn?_of_value {field : MetaField} {facts : LineFacts} (hasKey : facts.key = some field.key)
    (notBlank : Text.trim (stripQuotes facts.value) ≠ []) :
    field.valueIn? facts = some (Text.trim (stripQuotes facts.value)) := by
  rw [valueIn?, if_pos hasKey]
  exact if_neg (by simpa using notBlank)

/-- A line without the key, or without a value, gives a field no value. -/
theorem valueIn?_eq_none {field : MetaField} {facts : LineFacts}
    (other : ¬ (facts.key = some field.key ∧ facts.value ≠ [])) : field.valueIn? facts = none := by
  unfold valueIn?
  split
  · next hasKey =>
    have empty : facts.value = [] := by
      by_contra notEmpty
      exact other ⟨hasKey, notEmpty⟩
    rw [empty]
    rfl
  · rfl

/-- The first line with the key and a value gives the field its value, unless that is blank. -/
theorem salvage?_eq {field : MetaField} {lines : List LineFacts} {facts : LineFacts}
    (first : lines.find? (fun facts => facts.key = some field.key ∧ facts.value ≠ []) = some facts)
    (notBlank : Text.trim (stripQuotes facts.value) ≠ []) :
    field.salvage? lines = some (Text.trim (stripQuotes facts.value)) := by
  obtain ⟨isFirst, before, after, rfl, others⟩ := List.find?_eq_some_iff_append.mp first
  have none : before.findSome? field.valueIn? = none :=
    List.findSome?_eq_none_iff.mpr fun other member =>
      valueIn?_eq_none (by simpa [imp_iff_not_or] using others other member)
  rw [salvage?, List.findSome?_append, none, Option.none_or,
    List.findSome?_cons, valueIn?_of_value (of_decide_eq_true isFirst).1 notBlank]

end MetaField

namespace MetaRebuild

variable {defaults : MetaDefaults} {lines : List LineFacts} {field : MetaField} {value : Text}

/-- A field is found under its key among the fields that have a value. -/
theorem find?_filterMap (source : MetaField → Option Text) (isValue : source field = some value) :
    ∀ {known : List MetaField}, field ∈ known →
      (known.filterMap fun field => (source field).map (field, ·)).find?
        (fun entry => entry.1.key = field.key) = some (field, value) := by
  intro known
  induction known with
  | nil => exact nofun
  | cons first known ih =>
    intro member
    by_cases same : first = field
    · subst same
      simp [isValue]
    · have later := ih ((List.mem_cons.mp member).resolve_left (Ne.symm same))
      have apart : first.key ≠ field.key := fun keys => same (MetaField.key_injective keys)
      rw [List.filterMap_cons]
      cases source first with
      | none => exact later
      | some other => simpa [apart] using later

/-- The value of a field in the rebuilt metadata. -/
theorem entry?_value (isValue : (field.salvage? lines).or (field.default? defaults) = some value) :
    ["galaxy_info".toList, field.key].foldlM (fun value key => value.entry? key)
      (MetaRebuild.value defaults lines) = some (.string value) := by
  have found := find?_filterMap
    (fun field => (field.salvage? lines).or (field.default? defaults)) isValue field.mem_all
  have entries : ((fields defaults lines).map fun entry : MetaField × Text =>
      (Value.string entry.1.key, Value.string entry.2)).find?
        (fun entry => entry.1.same (.string field.key)) =
      some (.string field.key, .string value) := by
    rw [List.find?_map]
    have same : ((fun entry : Value × Value => entry.1.same (.string field.key)) ∘
        fun entry : MetaField × Text => (Value.string entry.1.key, Value.string entry.2)) =
        fun entry => decide (entry.1.key = field.key) := by
      funext entry
      simp [Value.same, beq_eq_decide]
    rw [same, fields, found]
    rfl
  simp only [MetaRebuild.value, List.foldlM_cons, List.foldlM_nil, Value.entry?]
  rw [List.find?_cons_of_pos (by rfl)]
  change Option.bind (Option.map _ (List.find? _ _)) pure = _
  rw [List.find?_append, entries]
  rfl

end MetaRebuild

/-- **A field that is kept keeps its meaning exactly if its scalar says what it means.** -/
theorem entry?_rebuildMeta_iff (defaults : MetaDefaults) (text : Text) (field : MetaField)
    {facts : LineFacts} {string : Text}
    (faithful : ∀ value ∈ MetaRebuild.strings defaults ((Line.ofText text).map LineFacts.ofLine),
      IsFaithful value)
    (first : ((Line.ofText text).map LineFacts.ofLine).find?
      (fun facts => facts.key = some field.key ∧ facts.value ≠ []) = some facts)
    (scalar : InlineValue.IsScalar facts.value)
    (reads : valueAt? ["value".toList] ("value: ".toList ++ facts.value) = some (.string string))
    (visible : Text.trim string ≠ []) :
    valueAt? ["galaxy_info".toList, field.key] (rebuildMeta defaults text).text =
        some (.string string) ↔ ¬ HasEscapes facts.value ∧ Text.trim string = string := by
  obtain ⟨word, spells, isString⟩ := scalar.exists_spells reads
  have notBlank : Text.trim (stripQuotes facts.value) ≠ [] := by
    intro blank
    have count : (stripQuotes facts.value).solidCount = 0 := by
      rw [← Text.solidCount_trim, blank]
      rfl
    obtain ⟨-, same⟩ | ⟨-, more⟩ := spells.stripQuotes_cases isString
    · exact visible (same ▸ blank)
    · exact absurd (count ▸ more) (Nat.not_lt_zero _)
  have kept : (field.salvage? ((Line.ofText text).map LineFacts.ofLine)).or
      (field.default? defaults) = some (Text.trim (stripQuotes facts.value)) := by
    rw [MetaField.salvage?_eq first notBlank]
    rfl
  have entry := MetaRebuild.entry?_value kept
  rw [valueAt?, (readSingle_rebuildMeta defaults text faithful).1]
  change List.foldlM _ _ _ = _ ↔ _
  rw [entry, ← spells.trim_stripQuotes_eq_iff isString]
  simp

/-- A name between quotes with a colon and a number sign. -/
theorem entry?_rebuildMeta_quoted :
    let text := "galaxy_info:\n  author:\n  author: 'J: # Ops'\nauthor: no\n".toList
    let lines := (Line.ofText text).map LineFacts.ofLine
    let facts := LineFacts.ofLine ⟨3, "  author: 'J: # Ops'".toList⟩
    let string := "J: # Ops".toList
    (∀ value ∈ MetaRebuild.strings {} lines, IsFaithful value) ∧
      lines.find? (fun facts => facts.key = some MetaField.author.key ∧ facts.value ≠ []) =
        some facts ∧
      InlineValue.IsScalar facts.value ∧
      valueAt? ["value".toList] ("value: ".toList ++ facts.value) = some (.string string) ∧
      Text.trim string ≠ [] ∧
      valueAt? ["galaxy_info".toList, MetaField.author.key] (rebuildMeta {} text).text =
        some (.string string) := by
  intro text lines facts string
  have faithful : ∀ value ∈ MetaRebuild.strings {} lines, IsFaithful value := by decide +kernel
  have first : lines.find? (fun facts => facts.key = some MetaField.author.key ∧ facts.value ≠ []) =
      some facts := by decide +kernel
  have scalar : InlineValue.IsScalar facts.value := by decide +kernel
  have reads : valueAt? ["value".toList] ("value: ".toList ++ facts.value) =
      some (.string string) := by decide +kernel
  have visible : Text.trim string ≠ [] := by decide +kernel
  have clean : ¬ HasEscapes facts.value ∧ Text.trim string = string := by decide +kernel
  have kept := (entry?_rebuildMeta_iff {} text .author faithful first scalar reads visible).mpr clean
  exact ⟨faithful, first, scalar, reads, visible, kept⟩

/-- A comment that becomes a part of the field. -/
theorem entry?_rebuildMeta_comment :
    let text := "author: Jane Ops # maintainer\n".toList
    let facts := LineFacts.ofLine ⟨1, "author: Jane Ops # maintainer".toList⟩
    ((Line.ofText text).map LineFacts.ofLine).find?
        (fun facts => facts.key = some MetaField.author.key ∧ facts.value ≠ []) = some facts ∧
      valueAt? ["value".toList] ("value: ".toList ++ facts.value) =
        some (.string "Jane Ops".toList) ∧
      valueAt? ["galaxy_info".toList, MetaField.author.key] (rebuildMeta {} text).text =
        some (.string "Jane Ops # maintainer".toList) := by
  decide +kernel

end PlaybookRepair
