import PlaybookRepair.Toml.Value

/-!
# Building tables

A table is built by adding pairs of a dotted key and a value. The path of a header or of a dotted key
is followed from table to table; a sequence of tables with headers is entered at its last table, and
what does not exist yet is made on the way. No key is given twice and no table gets a second header.
-/

namespace PlaybookRepair.Toml

/-- A pair of a dotted key and a value. -/
structure Pair where
  path : List Text
  key : Text
  value : Value

/-- The header of a table. -/
structure Header where
  path : List Text
  key : Text
  /-- Whether the table is a further item of a sequence. -/
  isItem : Bool

namespace Entries

/-- The entries with another value for a key. -/
def put (key : Text) (value : Value) : Entries → Entries
  | [] => [(key, value)]
  | entry :: rest => if entry.1 = key then (key, value) :: rest else entry :: put key value rest

/-- Changes the table at the end of a path, which may be the path of a dotted key. -/
def update (isDotted : Bool) (change : TableOrigin → Entries → Except Fault Entries) :
    List Text → TableOrigin → Entries → Except Fault Entries
  | [], origin, entries => change origin entries
  | key :: path, _, entries =>
    match entries.lookup key with
    | none => do
      let origin := if isDotted then .dotted else .implied
      let inner ← update isDotted change path origin []
      return put key (.table origin inner) entries
    | some (.table origin inner) =>
      if origin = .inlined then .error .notExtensible
      else if isDotted && origin = .header then .error .duplicateKey
      else do
        let inner ← update isDotted change path origin inner
        return put key (.table origin inner) entries
    | some (.array true items) =>
      match items.getLast? with
      | some (.table origin inner) => do
        let inner ← update isDotted change path origin inner
        return put key (.array true (items.dropLast ++ [.table origin inner])) entries
      | _ => .error .notExtensible
    | some _ => .error .notExtensible

/-- Adds a value to a table that was found by the path of a pair. Dotted keys add only to tables that
are made by dotted keys, and plain keys only to others. -/
def addNew (isDotted : Bool) (key : Text) (value : Value) (origin : TableOrigin)
    (entries : Entries) : Except Fault Entries :=
  if (origin = .dotted) ≠ (isDotted = true) then .error .duplicateKey
  else if (entries.lookup key).isSome then .error .duplicateKey
  else .ok (put key value entries)

/-- Adds a pair to a table. -/
def addPair (origin : TableOrigin) (entries : Entries) (pair : Pair) : Except Fault Entries :=
  let isDotted := !pair.path.isEmpty
  update isDotted (addNew isDotted pair.key pair.value) pair.path origin entries

/-- Adds pairs to a table. -/
def addPairs (origin : TableOrigin) (entries : Entries) (pairs : List Pair) :
    Except Fault Entries :=
  pairs.foldlM (addPair origin) entries

/-- Adds the table of a header to the table in which its last key stands. -/
def addTable (header : Header) (pairs : List Pair) (entries : Entries) : Except Fault Entries := do
  let table := fun start => do
    return Value.table .header (← addPairs .header start pairs)
  if header.isItem then
    match entries.lookup header.key with
    | none => return put header.key (.array true [← table []]) entries
    | some (.array true items) =>
      return put header.key (.array true (items ++ [← table []])) entries
    | some _ => .error .duplicateKey
  else
    match entries.lookup header.key with
    | none => return put header.key (← table []) entries
    | some (.table .implied inner) => return put header.key (← table inner) entries
    | some _ => .error .duplicateKey

/-- Adds the table of a header and the pairs under it to the table of the whole text. -/
def addSection (entries : Entries) (header : Header) (pairs : List Pair) :
    Except Fault Entries :=
  update false (fun _ => addTable header pairs) header.path .header entries

end Entries

end PlaybookRepair.Toml
