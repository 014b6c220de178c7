import Mathlib.Tactic.Common
import PlaybookRepair.Toml.Table

/-!
# Tables built from plain keys

Pairs with plain, distinct keys make a table of just these entries, in their order
(`addPairs_plain`). The tables of a sequence, each under a header of its own, are gathered in the
table that the sequence belongs to, which has a header (`addItems_header`) or is implied by the
first of them (`addItems_implied`).
-/

namespace PlaybookRepair.Toml.Entries

variable {key outer : Text} {value : Value} {entries front inner start : Entries}

/-! ## The entry behind all others -/

theorem lookup_absent (absent : ∀ entry ∈ entries, entry.1 ≠ key) : entries.lookup key = none :=
  List.lookup_eq_none_iff.mpr fun entry member => bne_iff_ne.mpr (absent entry member).symm

theorem lookup_last (absent : ∀ entry ∈ front, entry.1 ≠ key) (value : Value) :
    (front ++ [(key, value)]).lookup key = some value := by
  rw [List.lookup_append, lookup_absent absent, Option.none_or]
  exact List.lookup_cons_self

theorem put_append (absent : ∀ entry ∈ front, entry.1 ≠ key) (value : Value) (entries : Entries) :
    put key value (front ++ entries) = front ++ put key value entries := by
  induction front with
  | nil => rfl
  | cons entry front ih =>
    rw [List.cons_append, put, if_neg (absent entry List.mem_cons_self),
      ih fun other member => absent other (List.mem_cons_of_mem entry member), List.cons_append]

theorem put_new (absent : ∀ entry ∈ entries, entry.1 ≠ key) (value : Value) :
    put key value entries = entries ++ [(key, value)] := by
  have put := put_append absent value []
  rwa [List.append_nil] at put

theorem put_last (absent : ∀ entry ∈ front, entry.1 ≠ key) (old new : Value) :
    put key new (front ++ [(key, old)]) = front ++ [(key, new)] := by
  rw [put_append absent, put, if_pos rfl]

/-! ## Pairs -/

/-- No key is given to two entries. -/
def Distinct (entries : Entries) : Prop := entries.Pairwise fun first second => first.1 ≠ second.1

/-- An entry as a pair with a plain key. -/
def plainPair (entry : Text × Value) : Pair := ⟨[], entry.1, entry.2⟩

theorem addPair_plain (absent : ∀ entry ∈ start, entry.1 ≠ key) (value : Value) :
    addPair .header start (plainPair (key, value)) = .ok (start ++ [(key, value)]) := by
  change addNew false key value .header start = _
  rw [addNew, if_neg (by decide), lookup_absent absent, put_new absent]
  rfl

/-- Pairs with distinct plain keys become the entries of a table. -/
theorem addPairs_plain (distinct : Distinct (start ++ entries)) :
    addPairs .header start (entries.map plainPair) = .ok (start ++ entries) := by
  induction entries generalizing start with
  | nil => exact congrArg Except.ok (List.append_nil start).symm
  | cons entry entries ih =>
    have absent : ∀ other ∈ start, other.1 ≠ entry.1 := fun other member =>
      (List.pairwise_append.mp distinct).2.2 other member entry List.mem_cons_self
    rw [List.append_cons] at distinct ⊢
    rw [List.map_cons, addPairs, List.foldlM_cons, addPair_plain absent]
    exact ih distinct

/-- A table with a header of its own is put behind the entries of the whole text. -/
theorem addSection_header (alone : ∀ entry ∈ front, entry.1 ≠ outer) (distinct : Distinct entries) :
    addSection front ⟨[], outer, false⟩ (entries.map plainPair) =
      .ok (front ++ [(outer, .table .header entries)]) := by
  have table : addPairs .header [] (entries.map plainPair) = .ok entries := addPairs_plain distinct
  change addTable ⟨[], outer, false⟩ (entries.map plainPair) front = _
  simp only [addTable, Bool.false_eq_true, if_false, lookup_absent alone, table, bind, Except.bind]
  exact congrArg Except.ok (put_new alone _)

/-! ## Tables of a sequence -/

/-- A table with a sequence of tables behind its entries, unless there are none. -/
def withItems (key : Text) (entries : Entries) (items : List Value) : Entries :=
  entries ++ if items.isEmpty then [] else [(key, .array true items)]

theorem withItems_nil (key : Text) (entries : Entries) : withItems key entries [] = entries :=
  List.append_nil entries

theorem withItems_append (key : Text) (entries : Entries) (items : List Value) (last : Value) :
    withItems key entries (items ++ [last]) =
      entries ++ [(key, .array true (items ++ [last]))] := by
  rw [withItems, if_neg (by simp)]

theorem lookup_withItems {other : Text} (apart : other ≠ key) (entries : Entries)
    (items : List Value) : (withItems key entries items).lookup other = entries.lookup other := by
  cases items with
  | nil => rw [withItems_nil]
  | cons item items =>
    rw [withItems, if_neg (by simp), List.lookup_append, List.lookup_cons, beq_false_of_ne apart]
    exact Option.or_none

theorem lookup_withItems_self (absent : ∀ entry ∈ entries, entry.1 ≠ key) {items : List Value}
    (present : items ≠ []) :
    (withItems key entries items).lookup key = some (.array true items) := by
  rw [withItems, if_neg (by simpa using present)]
  exact lookup_last absent _

/-- The header of an item of a sequence in a table. -/
def itemHeader (outer key : Text) : Header := ⟨[outer], key, true⟩

theorem addTable_item (absent : ∀ entry ∈ inner, entry.1 ≠ key) (items : List Value)
    (distinct : Distinct entries) :
    addTable (itemHeader outer key) (entries.map plainPair) (withItems key inner items) =
      .ok (withItems key inner (items ++ [.table .header entries])) := by
  have table : addPairs .header [] (entries.map plainPair) = .ok entries := addPairs_plain distinct
  rw [withItems_append]
  cases items with
  | nil =>
    have missing : (withItems key inner []).lookup key = none := by
      rw [withItems_nil, lookup_absent absent]
    simp only [addTable, itemHeader, if_true, missing, table, bind, Except.bind]
    exact congrArg Except.ok ((withItems_nil key inner).symm ▸ put_new absent _)
  | cons item items =>
    have found : (withItems key inner (item :: items)).lookup key =
        some (.array true (item :: items)) := lookup_last absent _
    simp only [addTable, itemHeader, if_true, found, table, bind, Except.bind]
    exact congrArg Except.ok (put_last absent ..)

/-- The table that an item is added to has a header or is implied by the first item. -/
theorem addSection_item {origin : TableOrigin} (alone : ∀ entry ∈ front, entry.1 ≠ outer)
    (absent : ∀ entry ∈ inner, entry.1 ≠ key) (extensible : origin ≠ .inlined) (items : List Value)
    (distinct : Distinct entries) :
    addSection (front ++ [(outer, .table origin (withItems key inner items))])
        (itemHeader outer key) (entries.map plainPair) =
      .ok (front ++
        [(outer, .table origin (withItems key inner (items ++ [.table .header entries])))]) := by
  have adds : addTable (itemHeader outer key) (entries.map plainPair) (withItems key inner items) =
      _ := addTable_item absent items distinct
  have found := lookup_last alone (.table origin (withItems key inner items))
  simp only [addSection, itemHeader, update, found, if_neg extensible, Bool.false_and,
    Bool.false_eq_true, if_false, bind, Except.bind] at adds ⊢
  rw [adds]
  exact congrArg Except.ok (put_last alone ..)

theorem addSection_implied (alone : ∀ entry ∈ front, entry.1 ≠ outer)
    (distinct : Distinct entries) :
    addSection front (itemHeader outer key) (entries.map plainPair) =
      .ok (front ++ [(outer, .table .implied (withItems key [] [.table .header entries]))]) := by
  have adds : addTable (itemHeader outer key) (entries.map plainPair) [] = _ :=
    addTable_item (fun _ member => absurd member List.not_mem_nil) [] distinct
  simp only [addSection, itemHeader, update, lookup_absent alone, bind, Except.bind] at adds ⊢
  simp only [Bool.false_eq_true, if_false]
  rw [adds]
  exact congrArg Except.ok (put_new alone _)

/-- The sections of a sequence of tables. -/
def itemSections (outer key : Text) (tables : List Entries) : List (Header × List Pair) :=
  tables.map fun entries => (itemHeader outer key, entries.map plainPair)

/-- The tables of a sequence are gathered in their order. -/
theorem addItems {origin : TableOrigin} {tables : List Entries} (items : List Value)
    (alone : ∀ entry ∈ front, entry.1 ≠ outer) (absent : ∀ entry ∈ inner, entry.1 ≠ key)
    (extensible : origin ≠ .inlined)
    (distinct : ∀ entries ∈ tables, Distinct entries) :
    (itemSections outer key tables).foldlM
        (fun root (header, pairs) => addSection root header pairs)
        (front ++ [(outer, .table origin (withItems key inner items))]) =
      .ok (front ++ [(outer, .table origin
        (withItems key inner (items ++ tables.map (.table .header))))]) := by
  induction tables generalizing items with
  | nil => exact congrArg (fun items => Except.ok (front ++
      [(outer, Value.table origin (withItems key inner items))])) (List.append_nil items).symm
  | cons entries tables ih =>
    have adds := addSection_item alone absent extensible items (distinct entries List.mem_cons_self)
    rw [List.map_cons, List.append_cons items]
    change (do
      let root ← addSection _ (itemHeader outer key) (entries.map plainPair)
      (itemSections outer key tables).foldlM _ root) = _
    rw [adds]
    exact ih _ fun other member => distinct other (List.mem_cons_of_mem entries member)

theorem addItems_header {tables : List Entries} (alone : ∀ entry ∈ front, entry.1 ≠ outer)
    (absent : tables ≠ [] → ∀ entry ∈ inner, entry.1 ≠ key)
    (distinct : ∀ entries ∈ tables, Distinct entries) :
    (itemSections outer key tables).foldlM
        (fun root (header, pairs) => addSection root header pairs)
        (front ++ [(outer, .table .header inner)]) =
      .ok (front ++
        [(outer, .table .header (withItems key inner (tables.map (.table .header))))]) := by
  by_cases present : tables = []
  · rw [present, List.map_nil, withItems_nil]
    rfl
  · have gathers := addItems [] alone (absent present) (by decide : TableOrigin.header ≠ .inlined)
      distinct
    rwa [withItems_nil, List.nil_append] at gathers

theorem addItems_implied {tables : List Entries} (present : tables ≠ [])
    (alone : ∀ entry ∈ front, entry.1 ≠ outer) (distinct : ∀ entries ∈ tables, Distinct entries) :
    (itemSections outer key tables).foldlM
        (fun root (header, pairs) => addSection root header pairs) front =
      .ok (front ++
        [(outer, .table .implied (withItems key [] (tables.map (.table .header))))]) := by
  obtain ⟨entries, tables, rfl⟩ := List.exists_cons_of_ne_nil present
  have implies : addSection front (itemHeader outer key) (entries.map plainPair) = _ :=
    addSection_implied alone (distinct entries List.mem_cons_self)
  change (do
    let root ← addSection front (itemHeader outer key) (entries.map plainPair)
    (itemSections outer key tables).foldlM _ root) = _
  rw [implies]
  exact addItems _ alone (fun _ member => absurd member List.not_mem_nil) (by decide)
    fun other member => distinct other (List.mem_cons_of_mem entries member)

end PlaybookRepair.Toml.Entries
