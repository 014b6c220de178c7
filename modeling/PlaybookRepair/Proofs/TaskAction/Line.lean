import PlaybookRepair.Proofs.Tidy.Line
import PlaybookRepair.Proofs.Tracker.Effect

/-!
# Lines that name an action

The keys of a written task stand at one column, the first of them perhaps after the list marker of
the task. A line there whose key is the name of a module says what the task runs
(`isActionLine`). Nothing that stands deeper does, and a key that is written there names an action
only if it is the name of a module itself.
-/

namespace PlaybookRepair

open Catalog (isModule)

namespace KeyedLine

/-- A key is found again before a colon. -/
theorem splitKey?_append_colon {body key rest : Text} (split : splitKey? body = some (key, rest))
    (more : Text) : splitKey? (key ++ ':' :: more) = some (key, ':' :: more) := by
  have quoted {quote : Char} {text : Text} (split : splitQuotedKey? quote text = some (key, rest)) :
      ∃ inside, key = quote :: inside ++ [quote] ∧
        splitQuotedKey? quote (inside ++ quote :: ':' :: more) = some (key, ':' :: more) := by
    unfold splitQuotedKey? at split
    dsimp only at split
    split at split
    · split at split
      · cases split
      · next notEmpty =>
          cases split
          have noQuote : ∀ c ∈ text.takeWhile (· ≠ quote), decide (c ≠ quote) = true :=
            fun c member => List.mem_takeWhile_imp (p := fun c => decide (c ≠ quote)) member
          refine ⟨_, rfl, ?_⟩
          rw [splitQuotedKey?, List.takeWhile_append_of_pos noQuote,
            List.dropWhile_append_of_pos noQuote]
          simpa using notEmpty
    · cases split
  unfold splitKey? at split
  split at split
  · obtain ⟨inside, same, found⟩ := quoted split
    rw [same] at found ⊢
    simpa [splitKey?] using found
  · obtain ⟨inside, same, found⟩ := quoted split
    rw [same] at found ⊢
    simpa [splitKey?] using found
  · split at split
    · next start =>
        cases split
        refine splitKey?_of_isName ?_ ?_
        · exact Bool.and_eq_true_iff.mpr
            ⟨start, List.all_eq_true.mpr fun c member => List.mem_takeWhile_imp member⟩
        · intro c first
          obtain rfl : ':' = c := Option.some.inj first
          decide
    · cases split
  · cases split

/-- What starts with a blank, a hyphen or a number sign has no key. -/
theorem splitKey?_eq_none {text : Text}
    (starts : ∀ c, text.head? = some c → Text.isBlank c ∨ c = '-' ∨ c = '#') :
    splitKey? text = none := by
  have isOther : ∀ c, Text.isBlank c ∨ c = '-' ∨ c = '#' →
      c ≠ '"' ∧ c ≠ '\'' ∧ isKeyStart c = false := by
    rintro c (isBlank | rfl | rfl)
    · refine ⟨?_, ?_, ?_⟩
      · rintro rfl
        exact absurd isBlank (by decide)
      · rintro rfl
        exact absurd isBlank (by decide)
      by_contra isStart
      rw [Bool.not_eq_false] at isStart
      have large : 65 ≤ c.toNat ∧ c.toNat ≤ 122 := by
        delta isKeyStart Char.isAlpha Char.isUpper Char.isLower at isStart
        simp only [Bool.or_eq_true, Bool.and_eq_true, decide_eq_true_eq] at isStart
        rcases isStart with (⟨low, high⟩ | ⟨low, high⟩) | rfl
        · exact ⟨low, Nat.le_trans high (show 90 ≤ 122 by decide)⟩
        · exact ⟨Nat.le_trans (show 65 ≤ 97 by decide) low, high⟩
        · decide
      simp only [Text.isBlank, Bool.or_eq_true, Bool.and_eq_true, beq_iff_eq,
        decide_eq_true_eq] at isBlank
      omega
    · decide
    · decide
  cases text with
  | nil => rfl
  | cons c rest =>
      obtain ⟨notDouble, notSingle, notStart⟩ := isOther c (starts c rfl)
      unfold splitKey?
      split
      · next same => exact (notDouble (List.cons.inj same).1).elim
      · next same => exact (notSingle (List.cons.inj same).1).elim
      · next same =>
          obtain ⟨rfl, rfl⟩ := List.cons.inj same
          rw [if_neg (by simp [notStart])]
      · rfl

end KeyedLine

namespace Tracker

/-- What stands before the keys of a task: blanks, or the list marker of the task. -/
def taskMargins : List Text :=
  [List.replicate taskKeyColumn ' ', List.replicate taskColumn ' ' ++ listItemText []]

/-- The key of a line that stands where the keys of a task do. -/
def taskKey? (line : Text) : Option Text :=
  if taskMargins.contains (line.take taskKeyColumn) then
    (KeyedLine.splitKeyValue? (line.drop taskKeyColumn)).map (·.1)
  else none

/-- Whether a line says what its task runs. -/
def isActionLine (line : Text) : Bool := (taskKey? line).any isModule

variable {token : LineToken}

theorem not_isActionLine_of_noKey {line : Text}
    (noKey : KeyedLine.splitKey? (line.drop taskKeyColumn) = none) : isActionLine line = false := by
  rw [isActionLine, taskKey?, KeyedLine.splitKeyValue?, noKey]
  split <;> rfl

theorem not_isActionLine_nil : isActionLine [] = false := not_isActionLine_of_noKey rfl

theorem not_isActionLine_suppliedTasks : isActionLine suppliedTasks = false := by decide

/-- A line that stands deeper than the keys of its task does not say what the task runs. -/
theorem not_isActionLine_deeper {column : Nat} (deeper : taskKeyColumn < column) (text : Text) :
    isActionLine (indented column text) = false := by
  unfold indented
  split
  · next isEmpty =>
      rw [List.isEmpty_iff.mp isEmpty]
      exact not_isActionLine_nil
  · refine not_isActionLine_of_noKey (KeyedLine.splitKey?_eq_none fun c first => .inl ?_)
    obtain ⟨more, rfl⟩ := Nat.exists_eq_add_of_lt deeper
    rw [show taskKeyColumn + more + 1 = taskKeyColumn + (more + 1) from rfl,
      List.replicate_add, List.append_assoc, List.drop_left' List.length_replicate] at first
    obtain rfl : ' ' = c := Option.some.inj first
    rfl

/-- Neither does an item of a list. -/
theorem not_isActionLine_item (text : Text) :
    isActionLine (indented taskKeyColumn ('-' :: text)) = false := by
  rw [indented, if_neg (by simp)]
  refine not_isActionLine_of_noKey (KeyedLine.splitKey?_eq_none fun c first => .inr (.inl ?_))
  rw [List.drop_left' List.length_replicate] at first
  exact (Option.some.inj first).symm

/-- A comment that is copied with its margin says nothing. -/
theorem not_isActionLine_comment {raw : Text} (isComment : (Text.trim raw).head? = some '#') :
    isActionLine (Text.trimEnd raw) = false := by
  obtain ⟨rest, content⟩ := List.head?_eq_some_iff.mp isComment
  have line : Text.trimEnd raw = Text.margin raw ++ '#' :: rest := by
    rw [Text.trimEnd_eq (by simp [content]), content]
  by_cases isDeep : taskKeyColumn ≤ (Text.margin raw).length
  · refine not_isActionLine_of_noKey (KeyedLine.splitKey?_eq_none fun c first => ?_)
    rw [line, List.drop_append_of_le_length isDeep, List.head?_append] at first
    cases left : ((Text.margin raw).drop taskKeyColumn).head? with
    | none =>
        rw [left] at first
        exact .inr (.inr (Option.some.inj first).symm)
    | some d =>
        rw [left] at first
        obtain rfl : d = c := Option.some.inj first
        refine .inl (List.mem_takeWhile_imp (l := raw) ?_)
        exact List.mem_of_mem_drop (List.mem_of_mem_head? left)
  · have notMargin : taskMargins.contains ((Text.trimEnd raw).take taskKeyColumn) = false := by
      have sign : '#' ∈ (Text.trimEnd raw).take taskKeyColumn := by
        rw [line, List.take_append]
        refine List.mem_append_right _ ?_
        obtain ⟨more, same⟩ := Nat.exists_eq_add_of_lt (Nat.lt_of_not_le isDeep)
        rw [same, show (Text.margin raw).length + more + 1 - (Text.margin raw).length = more + 1 by
          omega]
        exact List.mem_cons_self
      have clean : ∀ margin ∈ taskMargins, '#' ∉ margin := by decide
      rw [Bool.eq_false_iff, Ne, List.contains_iff_mem]
      exact fun member => clean _ member sign
    rw [isActionLine, taskKey?, notMargin]
    rfl

/-- The key of a line is found again where the keys of tasks stand. -/
theorem taskKey?_eq_some {margin key : Text} (classified : token.Classified)
    (hasKey : token.key.isSome) (isMargin : margin ∈ taskMargins)
    (found : taskKey? (margin ++ token.keyedText) = some key) : token.key = some key := by
  obtain ⟨own, isKey⟩ := Option.isSome_iff_exists.mp hasKey
  have width : margin.length = taskKeyColumn := by
    have all : ∀ margin ∈ taskMargins, margin.length = taskKeyColumn := by decide
    exact all margin isMargin
  obtain ⟨more, text⟩ : ∃ more, token.keyedText = own ++ ':' :: more := by
    unfold LineToken.keyedText
    rw [isKey]
    dsimp only [Option.getD_some]
    split
    · exact ⟨[], rfl⟩
    · exact ⟨_, List.append_assoc ..⟩
  obtain ⟨rest, split⟩ : ∃ rest, KeyedLine.splitKey? token.body = some (own, rest) := by
    have facts := classified.facts_eq
    have body : token.body = (LineFacts.ofLine token.line).body := congrArg LineFacts.body facts
    have ofLine : (LineFacts.ofLine token.line).key = some own := by rw [← facts, isKey]
    rw [body]
    exact (KeyedLine.splitKeyValue?_eq_some (LineFacts.splitKeyValue?_body ofLine)).1
  rw [taskKey?, List.take_left' width, List.drop_left' width,
    if_pos (List.contains_iff_mem.mpr isMargin), text, KeyedLine.splitKeyValue?,
    KeyedLine.splitKey?_append_colon split] at found
  obtain ⟨⟨other, value⟩, parts, rfl⟩ := Option.map_eq_some_iff.mp found
  obtain ⟨_, _, same⟩ := Option.map_eq_some_iff.mp parts
  rw [isKey, (Prod.mk.inj same).1]

section

variable (classified : token.Classified) (hasKey : token.key.isSome)
  (noModule : token.key.any isModule = false)
include classified hasKey noModule

/-- A key that is no name of a module does not say what its task runs. -/
theorem not_isActionLine_keyed {margin : Text} (isMargin : margin ∈ taskMargins) :
    isActionLine (margin ++ token.keyedText) = false := by
  unfold isActionLine
  cases found : taskKey? (margin ++ token.keyedText) with
  | none => rfl
  | some key =>
      rw [taskKey?_eq_some classified hasKey isMargin found] at noModule
      exact noModule

theorem not_isActionLine_taskKey :
    isActionLine (indented taskKeyColumn token.keyedText) = false := by
  rw [indented_of_ne_nil _ token.keyedText_ne_nil]
  exact not_isActionLine_keyed classified hasKey noModule List.mem_cons_self

theorem not_isActionLine_header :
    isActionLine (indented taskColumn (listItemText token.keyedText)) = false := by
  have isMargin : List.replicate taskColumn ' ' ++ listItemText [] ∈ taskMargins :=
    List.mem_cons_of_mem _ List.mem_cons_self
  rw [indented_listItemText]
  exact not_isActionLine_keyed classified hasKey noModule isMargin

end

end Tracker

end PlaybookRepair
