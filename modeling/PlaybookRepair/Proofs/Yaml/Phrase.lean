import PlaybookRepair.Proofs.Yaml.Compose

/-!
# Phrases

A phrase is a node without aliases together with its tokens, its events and its value. Phrases are
built from strings, as sequences and as mappings whose keys are scalars. The tokens of a sound
phrase, as the only document of a text, are read as its value.
-/

namespace PlaybookRepair.Yaml

/-- The event of a document for an event of a node that is no alias. -/
def EventKind.node? : EventKind → Option NodeEvent
  | .scalar _ tag value style => some (.scalar tag value style)
  | .sequenceStart _ tag => some (.sequenceStart tag)
  | .sequenceEnd => some .sequenceEnd
  | .mappingStart _ tag => some (.mappingStart tag)
  | .mappingEnd => some .mappingEnd
  | .documentStart | .documentEnd | .reference _ => none

/-- Without aliases the events of nodes are added to a document as they are. -/
theorem documentsFrom_nodes (rest : Reading Event) :
    ∀ (found : List Event) (nodes : List NodeEvent) (document : OpenDocument),
      found.map (fun event => event.kind.node?) = nodes.map some →
      ∃ (own : List (NodeEvent × Mark)) (anchors : List (Text × Nat)), own.map Prod.fst = nodes ∧
        documentsFrom document (.prepend found rest) =
          documentsFrom ⟨own.reverse ++ document.events, anchors⟩ rest := by
  intro found
  induction found with
  | nil =>
    intro nodes document same
    obtain rfl : nodes = [] := by simpa using same.symm
    exact ⟨[], document.anchors, rfl, rfl⟩
  | cons event found ih =>
    intro nodes document same
    obtain ⟨kind, mark⟩ := event
    obtain ⟨node, nodes, rfl, own, later⟩ := List.map_eq_cons_iff.mp same.symm
    have step : ∃ anchor, documentsFrom document (.prepend (⟨kind, mark⟩ :: found) rest) =
        documentsFrom (document.push anchor node mark) (.prepend found rest) := by
      cases kind <;> cases own <;> exact ⟨_, rfl⟩
    obtain ⟨anchor, step⟩ := step
    obtain ⟨others, anchors, othersSame, ends⟩ :=
      ih nodes (document.push anchor node mark) later.symm
    refine ⟨(node, mark) :: others, anchors, by simp [othersSame], step.trans (ends.trans ?_)⟩
    simp only [List.reverse_cons, List.append_assoc, List.singleton_append]
    rfl

/-- A scalar: what is read of its text, its style and its value. -/
structure Word where
  text : Text
  style : ScalarStyle
  value : Value

namespace Word

/-- A plain string. -/
def plain (text : Text) : Word := ⟨text, .plain, .string text⟩

/-- Whether the scalar has its value. -/
def Resolves (word : Word) : Prop := Scalar.value none word.text word.style = .ok word.value

end Word

/-- A node with its tokens, its events and its value. -/
structure Phrase where
  tokens : List TokenKind
  events : List EventKind
  nodes : List NodeEvent
  value : Value

namespace Phrase

open EventReader (Parses StartsNode EndsValue)

/-- Whether the tokens of a phrase have its events, and those its value, where the phrase is a value
of a block mapping. It has at most `height` levels of collections. -/
structure IsValue (height : Nat) (phrase : Phrase) : Prop where
  starts : ∃ first ∈ phrase.tokens.head?, StartsNode first
  parses : Parses true EndsValue phrase.tokens phrase.events
  nodes : phrase.events.map EventKind.node? = phrase.nodes.map some
  reads : Document.Reads height phrase.nodes phrase.value

/-- Whether this is so wherever the phrase stands, also at the root of a document. -/
structure IsSound (height : Nat) (phrase : Phrase) : Prop extends IsValue height phrase where
  everywhere : ∀ isEntry next, Parses isEntry next phrase.tokens phrase.events
  root : ∀ first ∈ phrase.tokens.head?, EventReader.endsRoot first = false
  parses := everywhere _ _

theorem IsValue.mono {height higher : Nat} {phrase : Phrase} (sound : phrase.IsValue height)
    (taller : height ≤ higher) : phrase.IsValue higher :=
  { sound with reads := sound.reads.mono taller }

theorem IsSound.mono {height higher : Nat} {phrase : Phrase} (sound : phrase.IsSound height)
    (taller : height ≤ higher) : phrase.IsSound higher :=
  { sound with toIsValue := sound.toIsValue.mono taller }

/-- A scalar. -/
def word (word : Word) : Phrase where
  tokens := [.scalar word.text word.style]
  events := [.scalar none none word.text word.style]
  nodes := [.scalar none word.text word.style]
  value := word.value

theorem isSound_word {written : Word} (resolves : written.Resolves) : (word written).IsSound 0 where
  starts := ⟨_, rfl, by simp [StartsNode]⟩
  everywhere _ _ := Parses.scalar written.text written.style
  root := by rintro _ ⟨⟩; rfl
  nodes := rfl
  reads := Document.Reads.scalar resolves

/-- A string. -/
def string (text : Text) (style : ScalarStyle) : Phrase := word ⟨text, style, .string text⟩

/-- A sequence: in block style, or in flow style if it has no items. -/
def sequence (items : List Phrase) : Phrase where
  tokens :=
    if items.isEmpty then [.flowSequenceStart, .flowSequenceEnd]
    else .blockSequenceStart ::
      (items.flatMap (fun item => .blockEntry :: item.tokens) ++ [.blockEnd])
  events := .sequenceStart none none :: (items.flatMap events ++ [.sequenceEnd])
  nodes := .sequenceStart none :: (items.flatMap nodes ++ [.sequenceEnd])
  value := .sequence (items.map value)

/-- The events of parts that come one after another. -/
theorem flatMap_node? {α : Type} {parts : List α} {events : α → List EventKind}
    {nodes : α → List NodeEvent}
    (same : ∀ part ∈ parts, (events part).map EventKind.node? = (nodes part).map some) :
    (parts.flatMap events).map EventKind.node? = (parts.flatMap nodes).map some := by
  induction parts with
  | nil => rfl
  | cons part parts ih =>
    have first := same part List.mem_cons_self
    have later := ih fun other member => same other (List.mem_cons_of_mem part member)
    simp only [List.flatMap_cons, List.map_append, first, later]

theorem isSound_sequence {height : Nat} {items : List Phrase}
    (sound : ∀ item ∈ items, item.IsSound height) : (sequence items).IsSound (height + 1) where
  starts := by
    cases items with
    | nil => exact ⟨_, rfl, by simp [StartsNode]⟩
    | cons item items => exact ⟨_, rfl, by simp [StartsNode]⟩
  root := by
    cases items with
    | nil => rintro _ ⟨⟩; rfl
    | cons item items => rintro _ ⟨⟩; rfl
  everywhere isEntry next := by
    by_cases empty : items = []
    · subst empty
      exact Parses.emptySequence
    · have parts : ∀ part ∈ items.map fun item => EventReader.Part.mk item.tokens item.events,
          part.IsItem := by
        intro part member
        obtain ⟨item, among, rfl⟩ := List.mem_map.mp member
        exact ⟨(sound item among).starts, (sound item among).everywhere _ _⟩
      simpa [sequence, empty, List.flatMap_map] using Parses.sequence parts
  nodes := by
    have items := flatMap_node? fun item member => (sound item member).nodes
    simp [sequence, items, EventKind.node?]
  reads := by
    have read : ∀ node ∈ items.map fun item => Document.Node.mk item.nodes item.value,
        node.IsRead height := by
      intro node member
      obtain ⟨item, among, rfl⟩ := List.mem_map.mp member
      exact (sound item among).reads
    simpa [sequence, List.flatMap_map, Function.comp_def] using Document.Reads.sequence read

/-- A mapping in block style whose keys are scalars. -/
def mapping (entries : List (Word × Phrase)) : Phrase where
  tokens := .blockMappingStart ::
    (entries.flatMap (fun entry =>
      .key :: .scalar entry.1.text entry.1.style :: .value :: entry.2.tokens) ++ [.blockEnd])
  events := .mappingStart none none ::
    (entries.flatMap (fun entry =>
      .scalar none none entry.1.text entry.1.style :: entry.2.events) ++ [.mappingEnd])
  nodes := .mappingStart none ::
    (entries.flatMap (fun entry => .scalar none entry.1.text entry.1.style :: entry.2.nodes) ++
      [.mappingEnd])
  value := .mapping (entries.map fun entry => (entry.1.value, entry.2.value))

theorem isSound_mapping {height : Nat} {entries : List (Word × Phrase)}
    (keys : ∀ entry ∈ entries, entry.1.Resolves)
    (distinct : entries.Pairwise fun first later => first.1.value.same later.1.value = false)
    (sound : ∀ entry ∈ entries, entry.2.IsValue height) :
    (mapping entries).IsSound (height + 1) where
  starts := ⟨_, rfl, by simp [StartsNode]⟩
  root := by rintro _ ⟨⟩; rfl
  everywhere isEntry next := by
    have parts : ∀ part ∈ entries.map fun entry =>
        EventReader.Entry.mk entry.1.text entry.1.style ⟨entry.2.tokens, entry.2.events⟩,
        part.IsEntry := by
      intro part member
      obtain ⟨entry, among, rfl⟩ := List.mem_map.mp member
      exact ⟨(sound entry among).starts, (sound entry among).parses⟩
    simpa [mapping, List.flatMap_map, EventReader.Entry.tokens, EventReader.Entry.events] using
      Parses.mapping parts
  nodes := by
    have parts : (entries.flatMap fun entry =>
          .scalar none none entry.1.text entry.1.style :: entry.2.events).map EventKind.node? =
        (entries.flatMap fun entry =>
          .scalar none entry.1.text entry.1.style :: entry.2.nodes).map some :=
      flatMap_node? fun entry member => by simp [(sound entry member).nodes, EventKind.node?]
    simp [mapping, parts, EventKind.node?]
  reads := by
    have read : ∀ node ∈ entries.map fun entry =>
        Document.NodeEntry.mk entry.1.text entry.1.style entry.1.value
          ⟨entry.2.nodes, entry.2.value⟩,
        node.IsRead height := by
      intro node member
      obtain ⟨entry, among, rfl⟩ := List.mem_map.mp member
      exact ⟨keys entry among, (sound entry among).reads⟩
    have apart : (entries.map fun entry =>
        Document.NodeEntry.mk entry.1.text entry.1.style entry.1.value
          ⟨entry.2.nodes, entry.2.value⟩).Pairwise
        fun first later => first.key.same later.key = false := by
      rw [List.pairwise_map]
      exact distinct
    simpa [mapping, List.flatMap_map, Function.comp_def, Document.NodeEntry.events,
      Document.NodeEntry.pair] using Document.Reads.mapping read apart

/-- A text with the events of a sound phrase is read as one document with the value of the
phrase. -/
theorem IsSound.documents_of_events {height : Nat} {phrase : Phrase} (sound : phrase.IsSound height)
    (low : height ≤ maxDepth) {text : Text} {found : List Event}
    (said : found.map Event.kind = .documentStart :: (phrase.events ++ [.documentEnd]))
    (events : Yaml.events (Yaml.tokens text) = .prepend found .ended) :
    ∃ document, documents text = [document] ∧ document.value = .ok phrase.value := by
  obtain ⟨⟨_, start⟩, more, rfl, rfl, later⟩ := List.map_eq_cons_iff.mp said
  obtain ⟨body, last, rfl, bodySame, lastSame⟩ := List.map_eq_append_iff.mp later
  obtain ⟨⟨_, finish⟩, rfl, rfl⟩ := List.map_eq_singleton_iff.mp lastSame
  have nodes : body.map (fun event => event.kind.node?) = phrase.nodes.map some := by
    rw [← sound.nodes, ← bodySame, List.map_map]
    rfl
  obtain ⟨own, anchors, ownSame, joined⟩ :=
    documentsFrom_nodes (.item ⟨.documentEnd, finish⟩ .ended) body phrase.nodes {} nodes
  refine ⟨{ events := own }, ?_, ?_⟩
  · have split : documentsFrom {} (.prepend (⟨.documentStart, start⟩ ::
        (body ++ [⟨.documentEnd, finish⟩])) .ended) = [{ events := own }] := by
      rw [← List.cons_append, Reading.prepend_append]
      refine joined.trans ?_
      simp [documentsFrom, OpenDocument.close]
    rw [documents, events, split]
  · have read := sound.reads { events := own } ((maxDepth + 2) * (own.length + 8)) .root 0 own [] 0
      ownSame (by rw [← ownSame, List.length_map]; simp only [maxDepth]; omega) (by omega)
      (Nat.zero_le _)
    rw [List.append_nil] at read
    simp [Document.value, read, bind, Except.bind, pure, Except.pure]

section Stream

open TokenReader (Leads)

variable {height : Nat} {phrase : Phrase} (sound : phrase.IsSound height)
  (low : height ≤ maxDepth) {text : Text} {kinds : List TokenKind} {column : Nat}
  {blocks : List Nat} {keyAllowed : Bool} (allowed : ∀ c ∈ text, isAllowed c)
  (leads : Leads ⟨text, 0, [], true⟩ kinds ⟨[], column, blocks, keyAllowed⟩)
include sound low allowed leads

/-- A text whose tokens are a document sign and a sound phrase is read as one document with the
value of the phrase. -/
theorem IsSound.documents_eq
    (same : kinds ++ List.replicate blocks.length .blockEnd = .documentStart :: phrase.tokens) :
    ∃ document, documents text = [document] ∧ document.value = .ok phrase.value := by
  obtain ⟨stream, said, tokens⟩ := TokenReader.tokens_of_leads allowed leads
  obtain ⟨first, head, -⟩ := sound.starts
  obtain ⟨found, foundSame, events⟩ := EventReader.events_of_parses
    ⟨first, head, sound.root first head⟩ (sound.everywhere _ _) (said.trans (by rw [same]; rfl))
  exact sound.documents_of_events low foundSame (tokens ▸ events)

/-- So is a text whose tokens are a sound phrase. -/
theorem IsSound.documents_eq_bare
    (same : kinds ++ List.replicate blocks.length .blockEnd = phrase.tokens) :
    ∃ document, documents text = [document] ∧ document.value = .ok phrase.value := by
  obtain ⟨stream, said, tokens⟩ := TokenReader.tokens_of_leads allowed leads
  obtain ⟨first, head, -⟩ := sound.starts
  obtain ⟨found, foundSame, events⟩ := EventReader.events_of_parses_bare
    ⟨first, head, sound.root first head⟩ (sound.everywhere _ _) (said.trans (by rw [same]))
  exact sound.documents_of_events low foundSame (tokens ▸ events)

end Stream

end Phrase

end PlaybookRepair.Yaml
