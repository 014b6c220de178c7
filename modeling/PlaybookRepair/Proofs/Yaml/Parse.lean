import Mathlib.Tactic.Common
import PlaybookRepair.Proofs.Yaml.Scan
import PlaybookRepair.Yaml.Event

/-!
# Events of nodes

`Parses` says that tokens of the given kinds are those of one node and that the node has events of
the given kinds. A scalar and an empty flow sequence are such nodes, and so are a block sequence and
a block mapping whose parts are.
-/

namespace PlaybookRepair.Yaml

namespace EventReader

/-- Tokens of the given kinds make up a node with events of the given kinds, if a token follows for
which `next` holds and no directive has changed the tag handles. The node is read in block context;
as the key or value of a mapping it may be a sequence whose items are not indented. -/
def Parses (isEntry : Bool) (next : TokenKind → Prop) (kinds : List TokenKind)
    (events : List EventKind) : Prop :=
  ∀ (tokens : List Token) (expected : List Expectation) (token : Token)
    (rest : Reading Token), tokens.map Token.kind = kinds → next token.kind →
    ∃ (found : List Event) (steps : Nat), found.map Event.kind = events ∧
      steps ≤ 8 * tokens.length ∧ ∀ fuel,
        run (steps + fuel) ⟨.node true isEntry :: expected, .prepend tokens (.item token rest),
            defaultHandles⟩ =
          .prepend found (run fuel ⟨expected, .item token rest, defaultHandles⟩)

variable {expectation : Expectation} {expected : List Expectation} {handles : TagHandles}
  {token : Token} {rest : Reading Token} {isEntry : Bool} {next : TokenKind → Prop}
  {kinds : List TokenKind} {eventKinds : List EventKind}

theorem run_report {event : Event} {reader : EventReader} (fuel : Nat)
    (step : stepToken ⟨expected, .item token rest, handles⟩ expectation token rest =
      .ok (some event, reader)) :
    run (fuel + 1) ⟨expectation :: expected, .item token rest, handles⟩ =
      .item event (run fuel reader) := by
  simp only [run, step]

theorem run_proceed {reader : EventReader} (fuel : Nat)
    (step : stepToken ⟨expected, .item token rest, handles⟩ expectation token rest =
      .ok (none, reader)) :
    run (fuel + 1) ⟨expectation :: expected, .item token rest, handles⟩ = run fuel reader := by
  simp only [run, step]

theorem Parses.scalar (value : Text) (style : ScalarStyle) :
    Parses isEntry next [.scalar value style] [.scalar none none value style] := by
  intro tokens expected after rest kinds _
  obtain ⟨⟨kind, mark⟩, rfl, same⟩ := List.map_eq_singleton_iff.mp kinds
  cases same
  refine ⟨[⟨.scalar none none value style, mark⟩], 1, rfl, by simp, fun fuel => ?_⟩
  rw [Nat.add_comm]
  exact run_report fuel rfl

theorem Parses.emptySequence :
    Parses isEntry next [.flowSequenceStart, .flowSequenceEnd]
      [.sequenceStart none none, .sequenceEnd] := by
  intro tokens expected after rest kinds _
  obtain ⟨⟨first, start⟩, more, rfl, rfl, later⟩ := List.map_eq_cons_iff.mp kinds
  obtain ⟨⟨last, finish⟩, rfl, same⟩ := List.map_eq_singleton_iff.mp later
  cases same
  refine ⟨[⟨.sequenceStart none none, start⟩, ⟨.sequenceEnd, finish⟩], 2, rfl, by simp,
    fun fuel => ?_⟩
  rw [Nat.add_comm]
  exact (run_report (fuel + 1) rfl).trans (congrArg _ (run_report fuel rfl))

/-- Whether a token can be the first of a node after the sign of an item, a key or a value. -/
def StartsNode (kind : TokenKind) : Prop :=
  kind ≠ .blockEntry ∧ kind ≠ .blockEnd ∧ kind ≠ .key ∧ kind ≠ .value

/-- The tokens and the events of a node. -/
structure Part where
  tokens : List TokenKind
  events : List EventKind

/-- What ends an item of a block sequence. -/
def EndsItem (kind : TokenKind) : Prop := kind = .blockEntry ∨ kind = .blockEnd

/-- What ends a value of a block mapping. -/
def EndsValue (kind : TokenKind) : Prop := kind = .key ∨ kind = .blockEnd

/-- A part that can be an item of a block sequence. -/
structure Part.IsItem (part : Part) : Prop where
  starts : ∃ first ∈ part.tokens.head?, StartsNode first
  parses : Parses false EndsItem part.tokens part.events

theorem stepAfterSign_of_starts {reader : EventReader} {node : Expectation}
    {following : List Expectation} {isMissing : TokenKind → Bool} {mark : Token → Mark}
    (present : isMissing token.kind = false) :
    reader.stepAfterSign node following isMissing mark (.item token rest) =
      .ok (none, { reader with
        expected := node :: following ++ reader.expected
        tokens := .item token rest }) := by
  simp only [stepAfterSign, present, Bool.false_eq_true, ↓reduceIte]
  rfl

/-- A sign, the node after it and what follows the node. -/
theorem run_sign (expectation : Expectation) (sign : Token) (following : List Expectation)
    (isMissing : TokenKind → Bool) (mark : Token → Mark) (tokens : List Token) (after : Token)
    (more : Reading Token)
    (step : ∀ rest, stepToken ⟨expected, .item sign rest, defaultHandles⟩ expectation sign rest =
      EventReader.stepAfterSign ⟨expected, .item sign rest, defaultHandles⟩ (.node true isEntry) following
        isMissing mark rest)
    (parses : Parses isEntry next kinds eventKinds) (said : tokens.map Token.kind = kinds)
    (starts : ∃ first ∈ kinds.head?, isMissing first = false) (follows : next after.kind) :
    ∃ (found : List Event) (steps : Nat), found.map Event.kind = eventKinds ∧
      steps ≤ 8 * (tokens.length + 1) ∧ ∀ fuel,
        run (steps + fuel) ⟨expectation :: expected,
            .item sign (.prepend tokens (.item after more)), defaultHandles⟩ =
          .prepend found (run fuel ⟨following ++ expected, .item after more, defaultHandles⟩) := by
  obtain ⟨found, steps, same, few, runs⟩ :=
    parses tokens (following ++ expected) after more said follows
  obtain ⟨first, head, present⟩ := starts
  refine ⟨found, steps + 1, same, by omega, fun fuel => ?_⟩
  cases tokens with
  | nil =>
    subst said
    cases head
  | cons start tail =>
    subst said
    cases head
    rw [← runs, Nat.add_right_comm]
    exact run_proceed _ ((step _).trans (stepAfterSign_of_starts present))

/-- The items of a block sequence, and its end. -/
theorem run_items {items : List Part} (parsed : ∀ item ∈ items, item.IsItem) (start : Mark) :
    ∀ tokens : List Token,
      tokens.map Token.kind =
        items.flatMap (fun item => .blockEntry :: item.tokens) ++ [.blockEnd] →
      ∃ (found : List Event) (steps : Nat),
        found.map Event.kind = items.flatMap Part.events ++ [.sequenceEnd] ∧
        steps ≤ 8 * tokens.length ∧ ∀ fuel,
          run (steps + fuel) ⟨.blockItem start :: expected, .prepend tokens (.item token rest),
              defaultHandles⟩ =
            .prepend found (run fuel ⟨expected, .item token rest, defaultHandles⟩) := by
  induction items with
  | nil =>
    intro tokens said
    obtain ⟨⟨kind, mark⟩, rfl, same⟩ := List.map_eq_singleton_iff.mp said
    cases same
    refine ⟨[⟨.sequenceEnd, mark⟩], 1, rfl, by simp, fun fuel => ?_⟩
    rw [Nat.add_comm]
    exact run_report fuel rfl
  | cons item items ih =>
    intro tokens said
    simp only [List.flatMap_cons, List.cons_append, List.append_assoc] at said
    obtain ⟨⟨sign, mark⟩, more, rfl, rfl, later⟩ := List.map_eq_cons_iff.mp said
    obtain ⟨node, others, rfl, nodeSaid, othersSaid⟩ := List.map_eq_append_iff.mp later
    obtain ⟨first, head, starts⟩ := (parsed item List.mem_cons_self).starts
    obtain ⟨laterFound, laterSteps, laterSame, laterFew, laterRuns⟩ :=
      ih (fun other member => parsed other (List.mem_cons_of_mem item member)) others othersSaid
    obtain ⟨after, last, rfl, follows⟩ : ∃ after last, others = after :: last ∧
        EndsItem after.kind := by
      cases items with
      | nil =>
        obtain ⟨after, rfl, same⟩ := List.map_eq_singleton_iff.mp othersSaid
        exact ⟨after, [], rfl, .inr same⟩
      | cons other items =>
        obtain ⟨after, last, rfl, same, -⟩ := List.map_eq_cons_iff.mp othersSaid
        exact ⟨after, last, rfl, .inl same⟩
    obtain ⟨found, steps, same, few, runs⟩ :=
      run_sign (.blockItem start) ⟨.blockEntry, mark⟩ [.blockItem start]
        (fun kind => kind = .blockEntry || kind = .blockEnd)
        (fun _ => Token.after ⟨.blockEntry, mark⟩) node after (.prepend last (.item token rest))
        (fun _ => rfl) (parsed item List.mem_cons_self).parses nodeSaid
        ⟨first, head, by simp [starts.1, starts.2.1]⟩ follows
    refine ⟨found ++ laterFound, steps + laterSteps, ?_, ?_, fun fuel => ?_⟩
    · simp [same, laterSame]
    · simp only [List.length_cons, List.length_append] at few laterFew ⊢
      omega
    · rw [Reading.prepend_append, ← laterRuns, Nat.add_assoc]
      refine Eq.trans ?_ (runs (laterSteps + fuel))
      rw [← List.cons_append, Reading.prepend_append]
      rfl

/-- A block sequence is a node if its items are. -/
theorem Parses.sequence {items : List Part} (parsed : ∀ item ∈ items, item.IsItem) :
    Parses isEntry next
      (.blockSequenceStart :: (items.flatMap (fun item => .blockEntry :: item.tokens) ++ [.blockEnd]))
      (.sequenceStart none none :: (items.flatMap Part.events ++ [.sequenceEnd])) := by
  intro tokens expected token rest said _
  obtain ⟨⟨kind, start⟩, more, rfl, rfl, later⟩ := List.map_eq_cons_iff.mp said
  obtain ⟨found, steps, same, few, runs⟩ := run_items parsed start more later
  refine ⟨⟨.sequenceStart none none, start⟩ :: found, steps + 1, by simp [same], ?_, fun fuel => ?_⟩
  · simp only [List.length_cons]
    omega
  · rw [Nat.add_right_comm]
    exact (run_report _ rfl).trans (congrArg _ (runs fuel))

/-- An entry of a block mapping whose key is a scalar. -/
structure Entry where
  key : Text
  style : ScalarStyle
  value : Part

namespace Entry

/-- The tokens of an entry. -/
def tokens (entry : Entry) : List TokenKind :=
  .key :: .scalar entry.key entry.style :: .value :: entry.value.tokens

/-- The events of an entry. -/
def events (entry : Entry) : List EventKind :=
  .scalar none none entry.key entry.style :: entry.value.events

/-- The value of the entry can be one. -/
structure IsEntry (entry : Entry) : Prop where
  starts : ∃ first ∈ entry.value.tokens.head?, StartsNode first
  parses : Parses true EndsValue entry.value.tokens entry.value.events

end Entry

/-- The entries of a block mapping, and its end. -/
theorem run_entries {entries : List Entry} (parsed : ∀ entry ∈ entries, entry.IsEntry)
    (start : Mark) :
    ∀ tokens : List Token,
      tokens.map Token.kind = entries.flatMap Entry.tokens ++ [.blockEnd] →
      ∃ (found : List Event) (steps : Nat),
        found.map Event.kind = entries.flatMap Entry.events ++ [.mappingEnd] ∧
        steps ≤ 8 * tokens.length ∧ ∀ fuel,
          run (steps + fuel) ⟨.blockKey start :: expected, .prepend tokens (.item token rest),
              defaultHandles⟩ =
            .prepend found (run fuel ⟨expected, .item token rest, defaultHandles⟩) := by
  induction entries with
  | nil =>
    intro tokens said
    obtain ⟨⟨kind, mark⟩, rfl, same⟩ := List.map_eq_singleton_iff.mp said
    cases same
    refine ⟨[⟨.mappingEnd, mark⟩], 1, rfl, by simp, fun fuel => ?_⟩
    rw [Nat.add_comm]
    exact run_report fuel rfl
  | cons entry entries ih =>
    intro tokens said
    simp only [List.flatMap_cons, Entry.tokens, List.cons_append, List.append_assoc] at said
    obtain ⟨⟨_, keyMark⟩, more, rfl, rfl, scalarSaid⟩ := List.map_eq_cons_iff.mp said
    obtain ⟨scalar, more, rfl, scalarSame, signSaid⟩ := List.map_eq_cons_iff.mp scalarSaid
    obtain ⟨⟨_, valueMark⟩, more, rfl, rfl, later⟩ := List.map_eq_cons_iff.mp signSaid
    obtain ⟨node, others, rfl, nodeSaid, othersSaid⟩ := List.map_eq_append_iff.mp later
    obtain ⟨first, head, starts⟩ := (parsed entry List.mem_cons_self).starts
    obtain ⟨laterFound, laterSteps, laterSame, laterFew, laterRuns⟩ :=
      ih (fun other member => parsed other (List.mem_cons_of_mem entry member)) others othersSaid
    obtain ⟨after, last, rfl, follows⟩ : ∃ after last, others = after :: last ∧
        EndsValue after.kind := by
      cases entries with
      | nil =>
        obtain ⟨after, rfl, same⟩ := List.map_eq_singleton_iff.mp othersSaid
        exact ⟨after, [], rfl, .inr same⟩
      | cons other entries =>
        obtain ⟨after, last, rfl, same, -⟩ := List.map_eq_cons_iff.mp othersSaid
        exact ⟨after, last, rfl, .inl same⟩
    have keyParses : Parses true (fun _ => True) [.scalar entry.key entry.style]
        [.scalar none none entry.key entry.style] := Parses.scalar entry.key entry.style
    obtain ⟨keyFound, keySteps, keySame, keyFew, keyRuns⟩ :=
      run_sign (.blockKey start) ⟨.key, keyMark⟩ [.blockValue start] endsBlockNode
        (fun _ => Token.after ⟨.key, keyMark⟩) [scalar] ⟨.value, valueMark⟩
        (.prepend (node ++ after :: last) (.item token rest)) (fun _ => rfl) keyParses
        (by simp [scalarSame]) ⟨_, rfl, rfl⟩ trivial
    obtain ⟨found, steps, same, few, runs⟩ :=
      run_sign (.blockValue start) ⟨.value, valueMark⟩ [.blockKey start] endsBlockNode
        (fun _ => Token.after ⟨.value, valueMark⟩) node after (.prepend last (.item token rest))
        (fun _ => rfl) (parsed entry List.mem_cons_self).parses nodeSaid
        ⟨first, head, by simp [endsBlockNode, starts.2.1, starts.2.2.1, starts.2.2.2]⟩ follows
    refine ⟨keyFound ++ (found ++ laterFound), keySteps + (steps + laterSteps), ?_, ?_,
      fun fuel => ?_⟩
    · simp [keySame, same, laterSame, Entry.events]
    · simp only [List.length_cons, List.length_append, List.length_nil] at keyFew few laterFew ⊢
      omega
    · rw [Reading.prepend_append, Reading.prepend_append, ← laterRuns, Nat.add_assoc, Nat.add_assoc]
      refine Eq.trans ?_ ((keyRuns _).trans (congrArg _ ((congrArg _ ?_).trans (runs _))))
      · rfl
      · rw [Reading.prepend_append]
        rfl

/-- The root of a document is a node, unless it is left out. -/
theorem run_root (fuel : Nat) (present : endsRoot token.kind = false) :
    run fuel ⟨.root :: expected, .item token rest, handles⟩ =
      run fuel ⟨.node true false :: expected, .item token rest, handles⟩ := by
  cases fuel with
  | zero => rfl
  | succ fuel => simp only [run, stepToken, present, Bool.false_eq_true, ↓reduceIte]

/-- The end of a document at the end of the stream. -/
theorem run_documentEnd (fuel : Nat) (finish : Mark) :
    run (fuel + 2) ⟨[.documentEnd], .item ⟨.streamEnd, finish⟩ .ended, handles⟩ =
      .item ⟨.documentEnd, finish⟩ .ended := by
  refine (run_report (fuel + 1) rfl).trans (congrArg _ ((run_proceed fuel rfl).trans ?_))
  cases fuel <;> rfl

/-- A block mapping is a node if its values are. -/
theorem Parses.mapping {entries : List Entry} (parsed : ∀ entry ∈ entries, entry.IsEntry) :
    Parses isEntry next (.blockMappingStart :: (entries.flatMap Entry.tokens ++ [.blockEnd]))
      (.mappingStart none none :: (entries.flatMap Entry.events ++ [.mappingEnd])) := by
  intro tokens expected token rest said _
  obtain ⟨⟨kind, start⟩, more, rfl, rfl, later⟩ := List.map_eq_cons_iff.mp said
  obtain ⟨found, steps, same, few, runs⟩ := run_entries parsed start more later
  refine ⟨⟨.mappingStart none none, start⟩ :: found, steps + 1, by simp [same], ?_, fun fuel => ?_⟩
  · simp only [List.length_cons]
    omega
  · rw [Nat.add_right_comm]
    exact (run_report _ rfl).trans (congrArg _ (runs fuel))

/-- A node that is the root of a document, and the end of the stream. -/
theorem run_document {eventKinds : List EventKind}
    (parses : Parses false (· = .streamEnd) kinds eventKinds) {root : List Token}
    (said : root.map Token.kind = kinds) (finish : Mark) :
    ∃ (found : List Event) (steps : Nat), found.map Event.kind = eventKinds ++ [.documentEnd] ∧
      steps ≤ 8 * root.length + 2 ∧ ∀ fuel,
        run (steps + fuel) ⟨[.node true false, .documentEnd],
            .prepend root (.item ⟨.streamEnd, finish⟩ .ended), defaultHandles⟩ =
          .prepend found .ended := by
  obtain ⟨found, steps, same, few, runs⟩ := parses root [.documentEnd]
    ⟨.streamEnd, finish⟩ .ended said rfl
  refine ⟨found ++ [⟨.documentEnd, finish⟩], steps + 2, by simp [same], by omega, fun fuel => ?_⟩
  rw [Nat.add_assoc, runs, Nat.add_comm 2, run_documentEnd]
  exact (Reading.prepend_append found [⟨.documentEnd, finish⟩] .ended).symm

section Document

variable {eventKinds : List EventKind} (starts : ∃ first ∈ kinds.head?, endsRoot first = false)
  (parses : Parses false (· = .streamEnd) kinds eventKinds) {stream : List Token}
include starts parses

/-- The events of a stream of one document that has a starting sign. -/
theorem events_of_parses
    (said : stream.map Token.kind = .documentStart :: (kinds ++ [.streamEnd])) :
    ∃ found : List Event,
      found.map Event.kind = .documentStart :: (eventKinds ++ [.documentEnd]) ∧
      Yaml.events (.prepend stream .ended) = .prepend found .ended := by
  obtain ⟨⟨kind, start⟩, more, rfl, rfl, later⟩ := List.map_eq_cons_iff.mp said
  obtain ⟨root, last, rfl, rootSaid, lastSaid⟩ := List.map_eq_append_iff.mp later
  obtain ⟨⟨_, finish⟩, rfl, rfl⟩ := List.map_eq_singleton_iff.mp lastSaid
  obtain ⟨found, steps, same, few, runs⟩ := run_document parses rootSaid finish
  refine ⟨⟨.documentStart, start⟩ :: found, by simp [same], ?_⟩
  obtain ⟨first, head, present⟩ := starts
  have enough : 8 * ((Reading.prepend (root ++ [⟨.streamEnd, finish⟩]) .ended).length + 1 + 2) =
      steps + (8 * (root.length + 4) - steps - 1) + 1 := by
    rw [Reading.length_prepend]
    simp only [List.length_append, List.length_singleton, Reading.length]
    omega
  have begins : Yaml.events (.prepend (⟨.documentStart, start⟩ :: (root ++ [⟨.streamEnd, finish⟩])) .ended)
      = .item ⟨.documentStart, start⟩ (run (steps + (8 * (root.length + 4) - steps - 1))
        ⟨[.root, .documentEnd], .prepend root (.item ⟨.streamEnd, finish⟩ .ended),
            withDefaults []⟩) := by
    rw [Yaml.events]
    simp only [Reading.prepend, List.foldr_cons, Reading.length] at enough ⊢
    rw [enough, List.foldr_append]
    exact run_report _ rfl
  rw [begins]
  refine congrArg _ ?_
  cases root with
  | nil =>
    subst rootSaid
    cases head
  | cons token root =>
    subst rootSaid
    cases head
    exact (run_root _ present).trans (runs _)

/-- The events of a stream of one document without a starting sign. -/
theorem events_of_parses_bare (said : stream.map Token.kind = kinds ++ [.streamEnd]) :
    ∃ found : List Event,
      found.map Event.kind = .documentStart :: (eventKinds ++ [.documentEnd]) ∧
      Yaml.events (.prepend stream .ended) = .prepend found .ended := by
  obtain ⟨root, last, rfl, rootSaid, lastSaid⟩ := List.map_eq_append_iff.mp said
  obtain ⟨⟨_, finish⟩, rfl, rfl⟩ := List.map_eq_singleton_iff.mp lastSaid
  obtain ⟨found, steps, same, few, runs⟩ := run_document parses rootSaid finish
  obtain ⟨first, head, present⟩ := starts
  cases root with
  | nil =>
    subst rootSaid
    cases head
  | cons token root =>
    subst rootSaid
    cases head
    refine ⟨⟨.documentStart, token.start⟩ :: found, by simp [same], ?_⟩
    have enough : 8 * ((Reading.prepend (token :: root ++ [⟨.streamEnd, finish⟩]) .ended).length + 2) =
        steps + (8 * (root.length + 4) - steps - 1) + 1 := by
      rw [Reading.length_prepend]
      simp only [List.length_append, List.length_cons, List.length_nil, Reading.length] at few ⊢
      omega
    have begins (rest : Reading Token) :
        stepToken ⟨[], .item token rest, []⟩ (.document true) token rest =
          .ok (some ⟨.documentStart, token.start⟩,
            ⟨[.node true false, .documentEnd], .item token rest, defaultHandles⟩) := by
      obtain ⟨kind, start⟩ := token
      cases kind <;> first | rfl | cases present
    rw [Yaml.events, enough, Reading.prepend_append]
    exact (run_report _ (begins _)).trans (congrArg _ (runs _))

end Document

end EventReader

end PlaybookRepair.Yaml
