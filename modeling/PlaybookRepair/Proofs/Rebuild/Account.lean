import PlaybookRepair.Proofs.ShellBlock

/-!
# An account of the source

A written document is a sequence of pieces: lines that stand for one line of the source each,
supplied lines, empty lines, and scripts (`Piece`). `Account` says of such pieces that each of them
is sound and that between them they hold certain lines of the source, each of them once and in its
order, apart from lines that have joined a script above. A line of the source is entered into an
account at its end or in a script.
-/

namespace PlaybookRepair

/-- A piece of a written document. -/
inductive Piece
  /-- A line of the source, written in some form. -/
  | line (token : LineToken) (text : Text)
  /-- The key of a list of tasks that the source lacks. -/
  | supplied
  | empty
  /-- A shell block with the line on which it has opened, the lines and blank lines that it has
  gathered, the column of its key, and whether it carries the list marker of its task. -/
  | script (opener : LineToken) (lines : List (Option LineToken)) (block : ShellBlock)
    (column : Nat) (dashed : Bool)

namespace Piece

/-- The lines of a piece. -/
def texts (mode : RebuildMode) : Piece → List Text
  | line _ text => [text]
  | supplied => [Tracker.suppliedTasks]
  | empty => [[]]
  | script _ _ block column dashed =>
    Tracker.shellLines mode block { start := 0, length := 0, depth := column, dashed }

/-- The lines of the source that a piece holds. The key of a module is held by the header of its
script, the first line of any other script by the script itself. -/
def sources : Piece → List LineToken
  | line token _ => [token]
  | supplied | empty => []
  | script opener lines _ _ _ =>
    (if opener.role = .moduleInvocation then [opener] else []) ++ lines.reduceOption

/-- The piece stands for nothing in the source. -/
def IsSilent (piece : Piece) : Prop := piece = supplied ∨ piece = empty

/-- The piece is a shell block. -/
def isScript : Piece → Bool
  | script .. => true
  | line .. | supplied | empty => false

/-- The piece is what it claims to be. A list marker stands only before the keys of tasks. -/
def Sound : Piece → Prop
  | line token text => token.WrittenAs text
  | supplied | empty => True
  | script opener lines block column dashed =>
    block.Gathered opener lines ∧ (dashed → column = taskKeyColumn)

section

variable {piece : Piece} (silent : piece.IsSilent)
include silent

theorem IsSilent.sound : piece.Sound := by
  rcases silent with rfl | rfl <;> trivial

theorem IsSilent.sources_eq_nil : piece.sources = [] := by
  rcases silent with rfl | rfl <;> rfl

theorem noScript_of_optional {more : List Piece} (optional : more = [] ∨ more = [piece]) :
    ∀ other ∈ more, other.isScript = false := by
  rcases optional with rfl | rfl
  · exact List.forall_mem_nil _
  · rw [List.forall_mem_singleton]
    rcases silent with rfl | rfl <;> rfl

end

end Piece

/-- The pieces are sound and hold the given lines of the source, each line once; they do so in the
order of the source, but lines of some kind may stand above earlier ones. -/
structure Account (rejoins : LineToken → Prop) (pieces : List Piece) (kept : List LineToken) :
    Prop where
  sound : ∀ piece ∈ pieces, piece.Sound
  sources : (pieces.flatMap Piece.sources).Perm kept
  order : (pieces.flatMap Piece.sources).Pairwise fun first second =>
    first.line.number < second.line.number ∨ rejoins first

namespace Account

variable {rejoins : LineToken → Prop} {pieces above below : List Piece} {kept : List LineToken}
  {piece old new : Piece} {token : LineToken}

theorem nil : Account rejoins [] [] := ⟨fun _ member => (List.not_mem_nil member).elim, .nil, .nil⟩

theorem sound_of_append (account : Account rejoins pieces kept) (sound : piece.Sound) :
    ∀ other ∈ pieces ++ [piece], other.Sound := by
  intro other member
  rcases List.mem_append.mp member with earlier | last
  · exact account.sound other earlier
  · rwa [List.mem_singleton.mp last]

/-- A piece that stands for nothing in the source goes to the end. -/
theorem append_silent (account : Account rejoins pieces kept) (silent : piece.IsSilent) :
    Account rejoins (pieces ++ [piece]) kept where
  sound := account.sound_of_append silent.sound
  sources := by simpa [silent.sources_eq_nil] using account.sources
  order := by simpa [silent.sources_eq_nil] using account.order

/-- A piece that holds a line below all lines so far goes to the end. -/
theorem append (account : Account rejoins pieces kept) (sound : piece.Sound)
    (holds : piece.sources = [token])
    (later : ∀ earlier ∈ kept, earlier.line.number < token.line.number) :
    Account rejoins (pieces ++ [piece]) (kept ++ [token]) where
  sound := account.sound_of_append sound
  sources := by simpa [holds] using account.sources.append_right [token]
  order := by
    simp only [List.flatMap_append, List.flatMap_singleton, holds]
    refine List.pairwise_append.mpr ⟨account.order, List.pairwise_singleton .., ?_⟩
    intro earlier member last isLast
    rw [List.mem_singleton.mp isLast]
    exact .inl (later earlier (account.sources.subset member))

theorem sound_between (account : Account rejoins (above ++ piece :: below) kept) : piece.Sound :=
  account.sound piece (List.mem_append_right _ List.mem_cons_self)

theorem sound_of_replace (account : Account rejoins (above ++ old :: below) kept)
    (sound : new.Sound) : ∀ piece ∈ above ++ new :: below, piece.Sound := by
  intro piece member
  rcases List.mem_append.mp member with before | rest
  · exact account.sound piece (List.mem_append_left _ before)
  · rcases List.mem_cons.mp rest with rfl | after
    · exact sound
    · exact account.sound piece (List.mem_append_right _ (List.mem_cons_of_mem _ after))

/-- A piece gives way to one that holds the same lines. -/
theorem replace (account : Account rejoins (above ++ old :: below) kept) (sound : new.Sound)
    (same : new.sources = old.sources) : Account rejoins (above ++ new :: below) kept where
  sound := account.sound_of_replace sound
  sources := by simpa [same] using account.sources
  order := by simpa [same] using account.order

/-- A piece gives way to one that holds a line more, below all lines so far. The line stands above
earlier ones unless the piece is the last one. -/
theorem extend (account : Account rejoins (above ++ old :: below) kept) (sound : new.Sound)
    (holds : new.sources = old.sources ++ [token])
    (later : ∀ earlier ∈ kept, earlier.line.number < token.line.number)
    (last : below = [] ∨ rejoins token) :
    Account rejoins (above ++ new :: below) (kept ++ [token]) := by
  have before : (above ++ old :: below).flatMap Piece.sources =
      (above.flatMap Piece.sources ++ old.sources) ++ below.flatMap Piece.sources := by
    simp [List.flatMap_append]
  have after : (above ++ new :: below).flatMap Piece.sources =
      (above.flatMap Piece.sources ++ old.sources) ++ token :: below.flatMap Piece.sources := by
    simp [List.flatMap_append, holds]
  have entered := account.sources
  have ordered := account.order
  rw [before] at entered ordered
  refine ⟨account.sound_of_replace sound, ?_, ?_⟩
  · rw [after]
    have moved := List.perm_middle.trans (entered.cons token)
    exact moved.trans (List.perm_append_singleton token kept).symm
  · rw [after]
    obtain ⟨upper, lower, between⟩ := List.pairwise_append.mp ordered
    refine List.pairwise_append.mpr ⟨upper, List.pairwise_cons.mpr ⟨?_, lower⟩, ?_⟩
    · intro other member
      rcases last with rfl | joins
      · cases member
      · exact .inr joins
    · intro earlier member other isBelow
      rcases List.mem_cons.mp isBelow with rfl | isBelow
      · exact .inl (later earlier (entered.subset (List.mem_append_left _ member)))
      · exact between earlier member other isBelow

end Account

end PlaybookRepair
