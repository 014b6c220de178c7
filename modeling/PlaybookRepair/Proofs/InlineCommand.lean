import PlaybookRepair.Proofs.ScalarBlock
import PlaybookRepair.Proofs.Yaml.Escapes

/-!
# Inline commands

A shell block that opens on a command behind the key of its module moves the command below the key as
soon as it takes a line with text. There the command is the first line of a literal block scalar, in
which every character stands for itself, so it has to be written without its quotes and without the
escapes between them. The quotes are taken off, the escapes stay: the first line is the command
exactly if nothing is escaped in it (`render_inline_iff`).
-/

namespace PlaybookRepair

open InlineValue (isBlockIndicator_eq_false stripQuotes)
open Yaml (HasEscapes Word)

/-- A scalar does not start with the sign of a comment or of a block scalar. -/
theorem Yaml.Word.Spells.head {word : Word} {text : Text} (spells : word.Spells text) :
    ∃ c rest, text = c :: rest ∧ c ≠ '#' ∧ c ≠ '|' ∧ c ≠ '>' := by
  cases spells with
  | plain isPlain _ =>
    obtain ⟨c, rest, same, -, starts⟩ := isPlain.starts
    refine ⟨c, rest, same, ?_⟩
    obtain other | ⟨rfl | rfl | rfl, -⟩ := starts
    · refine ⟨?_, ?_, ?_⟩ <;> rintro rfl <;> exact absurd other (by decide)
    all_goals decide
  | @quoted quote _ inside _ _ isQuote _ _ =>
    refine ⟨quote, inside, rfl, ?_⟩
    obtain ⟨rfl, -⟩ | ⟨rfl, -⟩ := isQuote <;> decide

namespace ShellBlock

variable {token : LineToken} {word : Word} {lines : List LineToken} {block opened result : ShellBlock}

/-- A scalar behind the key of a module is the command of the block. -/
theorem inline_ofModule (spells : word.Spells token.value) :
    (ofModule token).explicit = false ∧ (ofModule token).inline = some token.value ∧
      (ofModule token).indicator = "|".toList := by
  obtain ⟨c, rest, same, noComment, noSign⟩ := spells.head
  have notExplicit : InlineValue.isBlockIndicator token.value = false := by
    apply isBlockIndicator_eq_false
    intro d first
    rw [same] at first
    exact Option.some.inj first ▸ noSign
  have isInline : (token.value.isEmpty || token.value.head? = some '#' ||
      InlineValue.isBlockIndicator token.value) = false := by
    rw [notExplicit, same]
    simpa using noComment
  refine ⟨notExplicit, ?_, ?_⟩
  · rw [ofModule, isInline]
    rfl
  · rw [ofModule, notExplicit]
    rfl

theorem absorb?_eq_some {line : LineToken} (absorbs : block.absorb? line = some result) :
    line.role = .blank ∧ result = block.pushBlank ∨ line.role ≠ .blank ∧ result = block.push line := by
  unfold absorb? at absorbs
  split at absorbs
  · next isBlank => exact .inl ⟨isBlank, (Option.some.inj absorbs).symm⟩
  · next hasText =>
    split at absorbs
    · exact .inr ⟨hasText, (Option.some.inj absorbs).symm⟩
    · cases absorbs

/-- The lines that a block takes leave its header as it is, and one with text gives it a body. -/
theorem sameHeader_of_absorbs (same : block.SameHeader opened)
    (absorbs : lines.foldlM absorb? block = some result) :
    result.SameHeader opened ∧
      ((block.body ≠ [] ∨ ∃ line ∈ lines, line.role ≠ .blank) → result.body ≠ []) := by
  induction lines generalizing block with
  | nil =>
    obtain rfl : block = result := Option.some.inj absorbs
    refine ⟨same, fun hasBody => hasBody.resolve_right ?_⟩
    rintro ⟨line, member, -⟩
    cases member
  | cons line lines ih =>
    rw [List.foldlM_cons] at absorbs
    obtain ⟨next, step, later⟩ := Option.bind_eq_some_iff.mp absorbs
    obtain ⟨isBlank, rfl⟩ | ⟨hasText, rfl⟩ := absorb?_eq_some step
    · obtain ⟨header, body⟩ := ih same.pushBlank later
      refine ⟨header, fun hasBody => body ?_⟩
      obtain own | ⟨other, member, hasText⟩ := hasBody
      · exact .inl own
      · obtain rfl | member := List.mem_cons.mp member
        · exact (hasText isBlank).elim
        · exact .inr ⟨other, member, hasText⟩
    · obtain ⟨header, body⟩ := ih (same.push line) later
      refine ⟨header, fun _ => body (.inl ?_)⟩
      rw [body_push]
      simp

end ShellBlock

open ShellBlock in
/-- **Moving an inline command below its key.** Once a block with an inline command has taken a line
with text, the command is the first line below the key. It is the string that YAML reads behind the
key exactly if nothing is escaped in the scalar. -/
theorem render_inline_iff {token : LineToken} {word : Word} {command : Text}
    (spells : word.Spells token.value) (isString : word.value = .string command)
    {lines : List LineToken} {block : ShellBlock}
    (absorbed : lines.foldlM absorb? (ofModule token) = some block)
    (hasText : ∃ line ∈ lines, line.role ≠ .blank) (keepRelative : Bool) :
    ∃ first rest, block.render keepRelative =
        (0, scriptKey (ofModule token).key ++ ": |".toList) :: (indentStep, first) :: rest ∧
      (first = command ↔ ¬ HasEscapes token.value) := by
  obtain ⟨notExplicit, inline, indicator⟩ := inline_ofModule spells
  obtain ⟨same, body⟩ := sameHeader_of_absorbs (.refl _) absorbed
  have noExplicit : block.explicit = false := same.explicit.trans notExplicit
  have isScript : ¬ (!block.explicit && block.body.isEmpty) := by
    simp [body (.inr hasText)]
  have header : block.headerText = scriptKey (ofModule token).key ++ ": |".toList := by
    rw [headerText, if_neg isScript, noExplicit, same.key, same.indicator, indicator,
      List.append_assoc]
    rfl
  have rendered := render_of_script isScript keepRelative
  rw [header, same.inline, inline] at rendered
  exact ⟨stripQuotes token.value, _, rendered, spells.stripQuotes_eq_iff isString⟩

open ShellBlock in
/-- Quotes of the other kind between the quotes are no escapes. -/
theorem render_inline_iff_quoted :
    let token := LineToken.classify ⟨1, "    shell: 'echo \"a: b\"'".toList⟩ { taskIndent := some 2 }
    let line := LineToken.classify ⟨2, "    dnf install foo".toList⟩ { taskIndent := some 2 }
    ∃ block rest, [line].foldlM absorb? (ofModule token) = some block ∧
      block.render false = (0, "shell: |".toList) :: (2, "echo \"a: b\"".toList) :: rest := by
  intro token line
  have value : token.value = "'echo \"a: b\"'".toList := by decide +kernel
  have spells : Word.Spells ⟨"echo \"a: b\"".toList, .singleQuoted, .string "echo \"a: b\"".toList⟩
      token.value := by
    rw [value]
    exact Yaml.spells_of_word? (by decide +kernel) (by decide +kernel)
  have absorbed : [line].foldlM absorb? (ofModule token) = some ((ofModule token).push line) := by
    decide +kernel
  obtain ⟨first, rest, rendered, same⟩ := render_inline_iff spells rfl absorbed
    ⟨line, List.mem_cons_self, by decide +kernel⟩ false
  have noEscapes : ¬ HasEscapes token.value := by decide +kernel
  rw [same.mpr noEscapes] at rendered
  exact ⟨_, rest, absorbed, rendered⟩

open ShellBlock in
/-- A backslash that is written twice between double quotes is still written twice below the key. -/
theorem render_inline_escaped :
    let around : Surroundings := { kind := .taskList, taskIndent := some 2, useIndent := true }
    let token := LineToken.classify ⟨1, "    shell: \"grep '\\\\.conf$' list\"".toList⟩ around
    let line := LineToken.classify ⟨2, "    dnf install foo".toList⟩ around
    Word.Spells ⟨"grep '\\.conf$' list".toList, .doubleQuoted,
        .string "grep '\\.conf$' list".toList⟩ token.value ∧
      ∃ block, [line].foldlM absorb? (ofModule token) = some block ∧
        block.render false = [(0, "shell: |".toList), (2, "grep '\\\\.conf$' list".toList),
          (2, "dnf install foo".toList)] := by
  intro around token line
  have value : token.value = "\"grep '\\\\.conf$' list\"".toList := by decide +kernel
  refine ⟨?_, (ofModule token).push line, by decide +kernel, by decide +kernel⟩
  rw [value]
  exact Yaml.spells_of_word? (by decide +kernel) (by decide +kernel)

end PlaybookRepair
