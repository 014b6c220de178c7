import Mathlib.Algebra.BigOperators.Group.List.Basic
import Mathlib.Algebra.GroupWithZero.Nat
import Mathlib.Tactic.Common
import PlaybookRepair.Proofs.Yaml.Parse
import PlaybookRepair.Yaml.Document

/-!
# Values of nodes

`Reads` says that the given events are those of one node without anchors and aliases and that the
node has the given value, wherever it stands. Scalars have their values, and sequences and mappings
have values made of those of their parts. A text of one document has the value of its root.
-/

namespace PlaybookRepair.Yaml

namespace Document

variable {document : Document} {fuel depth aliases : Nat} {path : Path}
  {rest : List (NodeEvent × Mark)} {mark : Mark}

theorem readNode_scalar {text : Text} {style : ScalarStyle} {value : Value}
    (resolves : Scalar.value none text style = .ok value) :
    readNode document (fuel + 1) false path depth ⟨(.scalar none text style, mark) :: rest, aliases⟩ =
      .ok (value, ⟨rest, aliases⟩) := by
  simp [readNode, localType?, resolves]

/-- An entry of a mapping whose key is a scalar: its key, the events of its value and how they are
read. -/
structure EntryReading (document : Document) (depth : Nat) where
  text : Text
  style : ScalarStyle
  mark : Mark
  key : Value
  events : List (NodeEvent × Mark)
  value : Value
  /-- The fuel and the number of aliases that reading the value takes. -/
  need : Nat
  used : Nat
  resolves : Scalar.value none text style = .ok key
  reads : ∀ fuel path rest aliases, need ≤ fuel →
    aliases + used ≤ document.events.length * aliasesPerEvent →
    readNode document fuel false path depth ⟨events ++ rest, aliases⟩ =
      .ok (value, ⟨rest, aliases + used⟩)

namespace EntryReading

variable (entry : EntryReading document depth)

/-- The events of the entry. -/
def allEvents : List (NodeEvent × Mark) :=
  (.scalar none entry.text entry.style, entry.mark) :: entry.events

/-- The entry as one of a value. -/
def pair : Value × Value := (entry.key, entry.value)

end EntryReading

/-- The entries of a mapping are read one after another if no two keys are the same. -/
theorem readEntries_run (path : Path) (start finish : Mark) (rest : List (NodeEvent × Mark))
    (entries : List (EntryReading document depth)) :
    ∀ (fuel aliases : Nat) (known : List (Value × Value)),
      entries.length < fuel → (∀ entry ∈ entries, entry.need + entries.length ≤ fuel) →
      aliases + (entries.map EntryReading.used).sum ≤ document.events.length * aliasesPerEvent →
      entries.Pairwise (fun first later => first.key.same later.key = false) →
      (∀ old ∈ known, ∀ entry ∈ entries, old.1.same entry.key = false) →
      readEntries document fuel false path start known depth
          ⟨entries.flatMap EntryReading.allEvents ++ (.mappingEnd, finish) :: rest, aliases⟩ =
        .ok (known.reverse ++ entries.map EntryReading.pair,
          ⟨rest, aliases + (entries.map EntryReading.used).sum⟩) := by
  induction entries with
  | nil =>
    intro fuel aliases known enough _ _ _ _
    obtain ⟨fuel, rfl⟩ := Nat.exists_eq_succ_of_ne_zero (Nat.ne_of_gt enough)
    simp [readEntries]
  | cons entry entries ih =>
    intro fuel aliases known enough fits within distinct new
    obtain ⟨fuel, rfl⟩ := Nat.exists_eq_succ_of_ne_zero (Nat.ne_zero_of_lt enough)
    obtain ⟨more, rfl⟩ : ∃ more, fuel = more + 1 :=
      Nat.exists_eq_succ_of_ne_zero (by simp only [List.length_cons] at enough; omega)
    simp only [List.length_cons] at enough fits
    simp only [List.map_cons, List.sum_cons] at within ⊢
    obtain ⟨first, distinct⟩ := List.pairwise_cons.mp distinct
    have unknown : known.find? (fun old => old.1.same entry.key) = none := by
      rw [List.find?_eq_none]
      intro old member
      simp [new old member entry List.mem_cons_self]
    have value := entry.reads (more + 1) (entryPath path (.scalar none entry.text entry.style))
      (entries.flatMap EntryReading.allEvents ++ (.mappingEnd, finish) :: rest) aliases
      (by have := fits entry List.mem_cons_self; omega) (by omega)
    have others := ih (more + 1) (aliases + entry.used) ((entry.key, entry.value) :: known)
      (by omega) (fun later member => by
        have := fits later (List.mem_cons_of_mem entry member)
        omega) (by omega) distinct (by
        intro old member later among
        cases member with
        | head => exact first later among
        | tail _ member => exact new old member later (List.mem_cons_of_mem entry among))
    rw [readEntries]
    simp only [List.flatMap_cons, EntryReading.allEvents, List.cons_append, List.append_assoc,
      readNode_scalar entry.resolves, bind, Except.bind, unknown]
    rw [value]
    refine others.trans ?_
    simp [EntryReading.pair, Nat.add_assoc]

/-- The events are those of one node without aliases, which has the value and at most `height`
levels of collections. -/
def Reads (height : Nat) (events : List NodeEvent) (value : Value) : Prop :=
  ∀ (document : Document) (fuel : Nat) (path : Path) (depth : Nat)
    (found rest : List (NodeEvent × Mark)) (aliases : Nat),
    found.map Prod.fst = events → events.length ≤ fuel → depth + height ≤ maxDepth →
    aliases ≤ document.events.length * aliasesPerEvent →
    readNode document fuel false path depth ⟨found ++ rest, aliases⟩ = .ok (value, ⟨rest, aliases⟩)

theorem Reads.mono {height higher : Nat} {events : List NodeEvent} {value : Value}
    (reads : Reads height events value) (taller : height ≤ higher) : Reads higher events value :=
  fun document fuel path depth found rest aliases same enough shallow within =>
    reads document fuel path depth found rest aliases same enough (by omega) within

theorem Reads.scalar {text : Text} {style : ScalarStyle} {value : Value}
    (resolves : Scalar.value none text style = .ok value) :
    Reads 0 [.scalar none text style] value := by
  intro document fuel path depth found rest aliases same enough _ _
  obtain ⟨⟨event, mark⟩, rfl, same⟩ := List.map_eq_singleton_iff.mp same
  cases same
  obtain ⟨fuel, rfl⟩ := Nat.exists_eq_succ_of_ne_zero (Nat.ne_zero_of_lt enough)
  exact readNode_scalar resolves

/-- The end of a sequence is not the start of a node. -/
theorem Reads.head_ne_sequenceEnd {height : Nat} {events : List NodeEvent} {value : Value}
    (reads : Reads height events value) (low : height ≤ maxDepth) :
    ∃ first later, events = first :: later ∧ first ≠ .sequenceEnd := by
  have alone := reads {} events.length .root 0 (events.map (·, .start)) [] 0
    (by simp [Function.comp_def]) (Nat.le_refl _) (by omega) (Nat.zero_le _)
  cases events with
  | nil => simp [readNode] at alone
  | cons first later =>
    refine ⟨first, later, rfl, ?_⟩
    rintro rfl
    simp [readNode, outOfEvents] at alone

/-- The events of a node and its value. -/
structure Node where
  events : List NodeEvent
  value : Value

/-- Whether a node has its events and its value, and at most `height` levels of collections. -/
def Node.IsRead (height : Nat) (node : Node) : Prop := Reads height node.events node.value

theorem readItems_run {height : Nat} {items : List Node}
    (reads : ∀ item ∈ items, item.IsRead height) (shallow : depth + height ≤ maxDepth)
    (within : aliases ≤ document.events.length * aliasesPerEvent) :
    ∀ (fuel index : Nat) (found : List (NodeEvent × Mark)),
      found.map Prod.fst = items.flatMap Node.events ++ [.sequenceEnd] → found.length ≤ fuel →
      readItems document fuel path index depth ⟨found ++ rest, aliases⟩ =
        .ok (items.map Node.value, ⟨rest, aliases⟩) := by
  induction items with
  | nil =>
    intro fuel index found same enough
    obtain ⟨⟨event, mark⟩, rfl, same⟩ := List.map_eq_singleton_iff.mp same
    cases same
    obtain ⟨fuel, rfl⟩ := Nat.exists_eq_succ_of_ne_zero (Nat.ne_zero_of_lt enough)
    simp [readItems]
  | cons item items ih =>
    intro fuel index found same enough
    rw [List.flatMap_cons, List.append_assoc] at same
    obtain ⟨own, others, rfl, ownSame, othersSame⟩ := List.map_eq_append_iff.mp same
    have here := reads item List.mem_cons_self
    obtain ⟨first, later, starts, other⟩ := here.head_ne_sequenceEnd (by omega)
    have count : own.length = item.events.length := by rw [← ownSame, List.length_map]
    have ends : others.length = (items.flatMap Node.events).length + 1 := by
      simpa using congrArg List.length othersSame
    rw [List.length_append] at enough
    obtain ⟨fuel, rfl⟩ := Nat.exists_eq_succ_of_ne_zero (by omega : fuel ≠ 0)
    have positive : 0 < own.length := by simp [count, starts]
    have value := here document fuel (.item path index) depth own (others ++ rest) aliases ownSame
      (by omega) shallow within
    have tail := ih (fun node member => reads node (List.mem_cons_of_mem item member)) fuel
      (index + 1) others othersSame (by omega)
    rw [starts] at ownSame
    obtain ⟨⟨event, mark⟩, more, rfl, rfl, -⟩ := List.map_eq_cons_iff.mp ownSame
    rw [readItems]
    simp only [List.append_assoc, bind, Except.bind, value, tail]
    split
    next same => exact absurd (congrArg Prod.fst (List.cons.inj same).1) other
    · rfl

/-- A sequence is read as the sequence of its items. -/
theorem Reads.sequence {height : Nat} {items : List Node}
    (reads : ∀ item ∈ items, item.IsRead height) :
    Reads (height + 1) (.sequenceStart none :: (items.flatMap Node.events ++ [.sequenceEnd]))
      (.sequence (items.map Node.value)) := by
  intro document fuel path depth found rest aliases same enough shallow within
  obtain ⟨⟨event, mark⟩, more, rfl, rfl, later⟩ := List.map_eq_cons_iff.mp same
  have count : more.length = (items.flatMap Node.events).length + 1 := by
    simpa using congrArg List.length later
  simp only [List.length_cons, List.length_append, List.length_nil] at enough
  obtain ⟨fuel, rfl⟩ := Nat.exists_eq_succ_of_ne_zero (by omega : fuel ≠ 0)
  have read : readItems document fuel path 0 (depth + 1) ⟨more ++ rest, aliases⟩ =
      .ok (items.map Node.value, ⟨rest, aliases⟩) :=
    readItems_run reads (by omega) within fuel 0 more later (by omega)
  have shallow : ¬depth ≥ maxDepth := by omega
  simp [readNode, localType?, shallow, read, bind, Except.bind, pure, Except.pure]

/-- An entry of a mapping whose key is a scalar. -/
structure NodeEntry where
  text : Text
  style : ScalarStyle
  key : Value
  value : Node

namespace NodeEntry

/-- The events of an entry. -/
def events (entry : NodeEntry) : List NodeEvent :=
  .scalar none entry.text entry.style :: entry.value.events

/-- The entry as one of a value. -/
def pair (entry : NodeEntry) : Value × Value := (entry.key, entry.value.value)

/-- Whether the key has its value and the value of the entry has its own, with at most `height`
levels of collections. -/
structure IsRead (height : Nat) (entry : NodeEntry) : Prop where
  resolves : Scalar.value none entry.text entry.style = .ok entry.key
  reads : entry.value.IsRead height

end NodeEntry

/-- Entries without aliases can be read from their events. -/
theorem exists_entryReadings {height : Nat} (document : Document) (shallow : depth + height ≤ maxDepth)
    {entries : List NodeEntry} (reads : ∀ entry ∈ entries, entry.IsRead height) :
    ∀ found : List (NodeEvent × Mark),
      found.map Prod.fst = entries.flatMap NodeEntry.events ++ [.mappingEnd] →
      ∃ (readings : List (EntryReading document depth)) (finish : Mark),
        found = readings.flatMap EntryReading.allEvents ++ [(.mappingEnd, finish)] ∧
        readings.map EntryReading.pair = entries.map NodeEntry.pair ∧
        readings.length < found.length ∧
        ∀ reading ∈ readings, reading.used = 0 ∧ reading.need + readings.length < found.length := by
  induction entries with
  | nil =>
    intro found same
    obtain ⟨⟨event, mark⟩, rfl, same⟩ := List.map_eq_singleton_iff.mp same
    cases same
    exact ⟨[], mark, rfl, rfl, Nat.one_pos, by simp⟩
  | cons entry entries ih =>
    intro found same
    rw [List.flatMap_cons, List.append_assoc] at same
    obtain ⟨⟨event, mark⟩, more, rfl, rfl, later⟩ := List.map_eq_cons_iff.mp same
    obtain ⟨own, others, rfl, ownSame, othersSame⟩ := List.map_eq_append_iff.mp later
    obtain ⟨readings, finish, rfl, pairs, few, sizes⟩ :=
      ih (fun other member => reads other (List.mem_cons_of_mem entry member)) others othersSame
    obtain ⟨resolves, readsValue⟩ := reads entry List.mem_cons_self
    let reading : EntryReading document depth :=
      { text := entry.text
        style := entry.style
        mark
        key := entry.key
        events := own
        value := entry.value.value
        need := entry.value.events.length
        used := 0
        resolves
        reads := fun fuel path rest aliases enough within =>
          readsValue document fuel path depth own rest aliases ownSame enough shallow within }
    have count : own.length = entry.value.events.length := by rw [← ownSame, List.length_map]
    refine ⟨reading :: readings, finish, ?_, ?_, ?_, ?_⟩
    · simp [reading, EntryReading.allEvents]
    · simp [reading, EntryReading.pair, NodeEntry.pair, pairs]
    · simp only [List.length_cons, List.length_append] at few ⊢
      omega
    · intro other member
      simp only [List.length_cons, List.length_append] at few sizes ⊢
      cases member with
      | head => exact ⟨rfl, by simp only [reading]; omega⟩
      | tail _ member =>
        obtain ⟨unused, fits⟩ := sizes other member
        exact ⟨unused, by omega⟩

/-- A mapping without two keys that are the same is read as the mapping of its entries. -/
theorem Reads.mapping {height : Nat} {entries : List NodeEntry}
    (reads : ∀ entry ∈ entries, entry.IsRead height)
    (distinct : entries.Pairwise fun first later => first.key.same later.key = false) :
    Reads (height + 1) (.mappingStart none :: (entries.flatMap NodeEntry.events ++ [.mappingEnd]))
      (.mapping (entries.map NodeEntry.pair)) := by
  intro document fuel path depth found rest aliases same enough shallow within
  obtain ⟨⟨event, mark⟩, more, rfl, rfl, later⟩ := List.map_eq_cons_iff.mp same
  have count : more.length = (entries.flatMap NodeEntry.events).length + 1 := by
    simpa using congrArg List.length later
  simp only [List.length_cons, List.length_append, List.length_nil] at enough
  obtain ⟨fuel, rfl⟩ := Nat.exists_eq_succ_of_ne_zero (by omega : fuel ≠ 0)
  obtain ⟨readings, finish, rfl, pairs, few, sizes⟩ := exists_entryReadings document
    (by omega : depth + 1 + height ≤ maxDepth) reads more later
  have read : readEntries document fuel false path mark [] (depth + 1)
      ⟨readings.flatMap EntryReading.allEvents ++ (.mappingEnd, finish) :: rest, aliases⟩ =
      .ok (entries.map NodeEntry.pair, ⟨rest, aliases⟩) := by
    have unused : (readings.map EntryReading.used).sum = 0 := by
      refine List.sum_eq_zero ?_
      simp only [List.mem_map, forall_exists_index, and_imp, forall_apply_eq_imp_iff₂]
      exact fun reading member => (sizes reading member).1
    have keys : readings.map EntryReading.key = entries.map NodeEntry.key := by
      simpa [Function.comp_def, EntryReading.pair, NodeEntry.pair] using
        congrArg (List.map Prod.fst) pairs
    have apart : readings.Pairwise fun first later => first.key.same later.key = false := by
      rw [← List.pairwise_map (f := EntryReading.key) (R := fun a b => a.same b = false), keys,
        List.pairwise_map]
      exact distinct
    simp only [List.length_append, List.length_singleton] at few sizes count
    have run := readEntries_run path mark finish rest readings fuel aliases [] (by omega)
      (fun reading member => by have := (sizes reading member).2; omega) (by omega) apart (by simp)
    rw [run, pairs, unused]
    rfl
  have shallow : ¬depth ≥ maxDepth := by omega
  simp [readNode, localType?, shallow, read, bind, Except.bind, pure, Except.pure]

end Document

end PlaybookRepair.Yaml
