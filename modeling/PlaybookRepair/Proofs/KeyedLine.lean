import PlaybookRepair.InlineValue
import PlaybookRepair.KeyedLine
import PlaybookRepair.Proofs.Text.Lines

/-!
# The parts of a line

The key and the value of a line are cut out of its content, and what is written for a value adds
quotes and backslashes at most. So what is written for a line takes up one line again.
-/

namespace PlaybookRepair

open Text (IsLine isLine_append isLine_cons isLine_nil)

namespace KeyedLine

/-- A quoted key and what follows it are all that comes after the opening quote. -/
theorem splitQuotedKey?_append {quote : Char} {text key rest : Text}
    (split : splitQuotedKey? quote text = some (key, rest)) : key ++ rest = quote :: text := by
  unfold splitQuotedKey? at split
  dsimp only at split
  split at split
  · next closing rest' found =>
      have isQuote : closing = quote := by
        have first := List.head?_dropWhile_not (fun c => decide (c ≠ quote)) text
        rw [found] at first
        simpa using first
      split at split
      · cases split
      · cases split
        have parts := List.takeWhile_append_dropWhile (p := fun c => decide (c ≠ quote)) (l := text)
        rw [found, isQuote] at parts
        simpa using parts
  · cases split

/-- A key and what follows it are the whole body. -/
theorem splitKey?_append {body key rest : Text} (split : splitKey? body = some (key, rest)) :
    key ++ rest = body := by
  unfold splitKey? at split
  split at split
  · exact splitQuotedKey?_append split
  · exact splitQuotedKey?_append split
  · split at split
    · cases split
      simp
    · cases split
  · cases split

/-- A key and its value are parts of the body. -/
theorem splitKeyValue?_subset {body key value : Text}
    (split : splitKeyValue? body = some (key, value)) : key ⊆ body ∧ value ⊆ body := by
  unfold splitKeyValue? at split
  split at split
  · next found rest isKey =>
      have whole := splitKey?_append isKey
      split at split
      · next after colon =>
          obtain ⟨found', isValue, same⟩ := Option.map_eq_some_iff.mp split
          cases same
          have afterColon : after ⊆ body := by
            rw [← whole]
            have suffix := (List.dropWhile_suffix isGap (l := rest)).subset
            rw [colon] at suffix
            exact fun c member =>
              List.mem_append_right _ (suffix (List.mem_cons_of_mem _ member))
          refine ⟨whole ▸ List.subset_append_left .., fun c member => afterColon ?_⟩
          unfold valueAfterColon? at isValue
          split at isValue
          · cases isValue
            cases member
          · split at isValue
            · cases isValue
              exact List.mem_cons_of_mem _ (Text.mem_of_mem_trim member)
            · cases isValue
      · cases split
  · cases split

/-- What stands behind the colon of a key is trimmed and takes up one line. -/
theorem valueAfterColon?_eq_some {after value : Text}
    (isValue : valueAfterColon? after = some value) : Text.trim value = value ∧ value.IsLine := by
  unfold valueAfterColon? at isValue
  split at isValue
  · cases isValue
    exact ⟨rfl, isLine_nil⟩
  · split at isValue
    · next onOneLine =>
        cases isValue
        have noBlanks : ∀ c ∈ ([] : Text), Text.isBlank c := nofun
        rw [Bool.and_eq_true, Bool.not_eq_true', List.contains_eq_mem, decide_eq_false_iff_not]
          at onOneLine
        exact ⟨Text.trim_append_trim noBlanks _,
          fun member => onOneLine.2 (Text.mem_of_mem_trim member)⟩
    · cases isValue

/-- A body with a key starts with the key, and its value takes up one line, without blanks at its
ends. -/
theorem splitKeyValue?_eq_some {body key value : Text}
    (split : splitKeyValue? body = some (key, value)) :
    (∃ rest, splitKey? body = some (key, rest)) ∧ Text.trim value = value ∧ value.IsLine := by
  unfold splitKeyValue? at split
  split at split
  · next isKey =>
      split at split
      · obtain ⟨own, isValue, same⟩ := Option.map_eq_some_iff.mp split
        cases same
        exact ⟨⟨_, isKey⟩, valueAfterColon?_eq_some isValue⟩
      · cases split
  · cases split

end KeyedLine

namespace LineFacts

/-- The key and the value of a line are those of its body. -/
theorem splitKeyValue?_body {line : Line} {key : Text} (hasKey : (ofLine line).key = some key) :
    KeyedLine.splitKeyValue? (ofLine line).body = some (key, (ofLine line).value) := by
  obtain ⟨⟨own, value⟩, split, rfl⟩ := Option.map_eq_some_iff.mp hasKey
  have same : (ofLine line).value = value := by
    change ((KeyedLine.splitKeyValue? (ofLine line).body).map _).getD [] = value
    rw [show KeyedLine.splitKeyValue? (ofLine line).body = _ from split]
    rfl
  rw [same]
  exact split

variable (line : Line)

theorem body_subset : (ofLine line).body ⊆ line.content := by
  intro c member
  simp only [ofLine] at member
  split at member
  · exact List.mem_of_mem_drop (Text.mem_of_mem_trimStart member)
  · exact member

/-- The key of a line and its value are parts of the content. -/
theorem key_value_subset :
    (∀ key, (ofLine line).key = some key → key ⊆ line.content) ∧
      (ofLine line).value ⊆ line.content := by
  have body := body_subset line
  have split : (ofLine line).key = (KeyedLine.splitKeyValue? (ofLine line).body).map (·.1) ∧
      (ofLine line).value = ((KeyedLine.splitKeyValue? (ofLine line).body).map (·.2)).getD [] :=
    ⟨rfl, rfl⟩
  rw [split.1, split.2]
  cases found : KeyedLine.splitKeyValue? (ofLine line).body with
  | none => exact ⟨nofun, List.nil_subset _⟩
  | some parts =>
      obtain ⟨key, value⟩ := KeyedLine.splitKeyValue?_subset found
      refine ⟨?_, List.Subset.trans value body⟩
      intro other same
      cases same
      exact List.Subset.trans key body

end LineFacts

namespace InlineValue

theorem before_isPrefixOf (piece text : Text) : Text.before piece text <+: text := by
  induction text with
  | nil => exact List.prefix_rfl
  | cons c rest ih =>
      rw [Text.before]
      split
      · exact List.nil_prefix
      · exact List.cons_prefix_cons.mpr ⟨rfl, ih⟩

theorem withoutComment_subset (value : Text) : withoutComment value ⊆ value :=
  fun _ member => (before_isPrefixOf _ value).subset (Text.mem_of_mem_trimEnd member)

/-- A text that does not start with the sign of a block scalar is no header of one. -/
theorem isBlockIndicator_eq_false {value : Text}
    (other : ∀ c, value.head? = some c → c ≠ '|' ∧ c ≠ '>') : isBlockIndicator value = false := by
  unfold isBlockIndicator
  split
  · next c rest shown =>
      obtain ⟨tail, whole⟩ :=
        (Text.trimEnd_isPrefixOf _).trans (before_isPrefixOf " #".toList value)
      change withoutComment value ++ tail = value at whole
      have first : value.head? = some c := by
        rw [← whole, shown]
        rfl
      rw [decide_eq_false (other c first).1, decide_eq_false (other c first).2]
      rfl
  · rfl

theorem insideQuotes?_subset {quote : Char} {value inside : Text}
    (found : insideQuotes? quote value = some inside) : inside ⊆ value := by
  unfold insideQuotes? at found
  split at found
  · split at found
    · cases found
      exact fun c member => List.mem_cons_of_mem _ (List.dropLast_subset _ member)
    · cases found
  · cases found

theorem stripQuotes_subset (value : Text) : stripQuotes value ⊆ value := by
  unfold stripQuotes
  cases double : insideQuotes? '"' value with
  | some inside => exact insideQuotes?_subset double
  | none =>
      cases single : insideQuotes? '\'' value with
      | some inside => exact insideQuotes?_subset single
      | none => exact List.Subset.refl value

/-- Double quotes add quotes and backslashes. -/
theorem mem_of_mem_doubleQuoted {value : Text} {c : Char} (member : c ∈ doubleQuoted value) :
    c ∈ value ∨ c = '"' ∨ c = '\\' := by
  simp only [doubleQuoted, List.cons_append, List.mem_cons, List.mem_append, List.mem_flatMap,
    List.not_mem_nil, or_false] at member
  obtain rfl | ⟨d, isPart, shown⟩ | rfl := member
  · exact .inr (.inl rfl)
  · split at shown
    · obtain rfl | rfl : c = '\\' ∨ c = d := by simpa using shown
      · exact .inr (.inr rfl)
      · exact .inl isPart
    · exact .inl (List.mem_singleton.mp shown ▸ isPart)
  · exact .inr (.inl rfl)

variable {value : Text} (isLine : value.IsLine)
include isLine

theorem isLine_doubleQuoted : (doubleQuoted value).IsLine := by
  intro member
  obtain own | isQuote | isBackslash := mem_of_mem_doubleQuoted member
  · exact isLine own
  · cases isQuote
  · cases isBackslash

theorem isLine_quoteTemplate : (quoteTemplate value).IsLine := by
  unfold quoteTemplate
  split
  · exact isLine_doubleQuoted isLine
  · exact isLine

theorem isLine_quoteMapping : (quoteMapping value).IsLine := by
  unfold quoteMapping
  dsimp only
  split
  · exact isLine_doubleQuoted isLine
  · exact isLine_quoteTemplate isLine

end InlineValue

end PlaybookRepair
