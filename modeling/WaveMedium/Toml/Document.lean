/-
Module: WaveMedium.Toml.Document
Purpose: Putting the lines of a document together into tables.
Main exports:
  Toml.Node, Toml.assign, Toml.inlineTable, Toml.Assembly, Toml.Assembly.openTable,
  Toml.Assembly.openArray, Toml.Assembly.finish
-/
import WaveMedium.Toml.Value

/-!
A table may be written in several places, but each of its parts only in one way.  So a table remembers
how it came about: by a header of its own, by the header of a table inside it, or by a dotted key.  A
dotted key never adds to a table with a header, and a header never to a table of dotted keys.
-/

namespace WaveMedium.Toml

/-- How a table came about. -/
inductive TableOrigin where
  /-- By its own header. -/
  | header
  /-- By the header of a table inside it. -/
  | implied
  /-- By a dotted key. -/
  | dotted
deriving DecidableEq, Repr

/-- An entry of a document while it is put together. -/
inductive Node where
  /-- A value after an equals sign. -/
  | value (value : Value)
  | table (origin : TableOrigin) (entries : List (String × Node))
  /-- Tables with a common header in double brackets. -/
  | tables (items : List (List (String × Node)))

/-- The entries of a table while it is put together. -/
abbrev Entries := List (String × Node)

mutual

/-- What an entry stands for when the document is complete. -/
def Node.toValue : Node → Value
  | .value value => value
  | .table _ entries => .table (entriesToValues entries)
  | .tables items => .array (tablesToValues items)

/-- The entries of a complete table. -/
def entriesToValues : List (String × Node) → List (String × Value)
  | [] => []
  | (key, node) :: entries => (key, node.toValue) :: entriesToValues entries

/-- The tables of a complete array. -/
def tablesToValues : List (List (String × Node)) → List Value
  | [] => []
  | entries :: items => .table (entriesToValues entries) :: tablesToValues items

end

/-- Exchange the entry of a key. -/
def replaceEntry (key : String) (node : Node) (entries : Entries) : Entries :=
  entries.map fun entry => if entry.1 == key then (key, node) else entry

/-- Exchange the last of several tables. -/
def replaceLast (items : List Entries) (entries : Entries) : List Entries :=
  items.dropLast ++ [entries]

/-! ### Keys with values -/

/-- Whether a dotted key may end in a table that came about in this way. -/
def mayAssign (origin : TableOrigin) (path : List String) : Bool :=
  !path.isEmpty || origin == .dotted

/-- Write a value under a dotted key, given as the path to its table and its last part. -/
def assign : List String → String → Value → Entries → Option Entries
  | [], key, value, entries =>
      match entries.lookup key with
      | some _ => none
      | none => some (entries ++ [(key, .value value)])
  | part :: path, key, value, entries =>
      match entries.lookup part with
      | none => do
          let inner ← assign path key value []
          some (entries ++ [(part, .table .dotted inner)])
      | some (.table origin old) => do
          guard (origin ≠ .header && mayAssign origin path)
          let inner ← assign path key value old
          some (replaceEntry part (.table origin inner) entries)
      | some (.tables items) => do
          guard (!path.isEmpty)
          let inner ← assign path key value (items.getLastD [])
          some (replaceEntry part (.tables (replaceLast items inner)) entries)
      | some (.value _) => none

/-- A table written on one line, from its keys and values. -/
def inlineTable (pairs : List (List String × String × Value)) : Option Value := do
  let entries ← pairs.foldlM (fun entries (path, key, value) => assign path key value entries) []
  some (.table (entriesToValues entries))

/-! ### Headers -/

/-- Change the entries at the end of a path of headers.  Tables on the way that are not there yet are
implied, and of several tables the last one is meant. -/
def within {α : Type} : List String → (Entries → Option (Entries × α)) → Entries →
    Option (Entries × α)
  | [], change, entries => change entries
  | part :: path, change, entries =>
      match entries.lookup part with
      | none => do
          let (inner, result) ← within path change []
          some (entries ++ [(part, .table .implied inner)], result)
      | some (.table origin old) => do
          let (inner, result) ← within path change old
          some (replaceEntry part (.table origin inner) entries, result)
      | some (.tables items) => do
          let (inner, result) ← within path change (items.getLastD [])
          some (replaceEntry part (.tables (replaceLast items inner)) entries, result)
      | some (.value _) => none

/-- Where the lines after a header go. -/
inductive Place where
  /-- Before the first header. -/
  | root
  | table (path : List String) (key : String)
  | array (path : List String) (key : String)

/-- A document up to the current line: the tables before the current one, the place of the current one,
and its entries. -/
structure Assembly where
  finished : Entries
  place : Place
  current : Entries

/-- A document before its first line. -/
def Assembly.empty : Assembly := ⟨[], .root, []⟩

/-- Put the current table in its place, after the tables that are already there. -/
def Assembly.close (assembly : Assembly) : Option Entries :=
  match assembly.place with
  | .root => some assembly.current
  | .table path key => do
      let (entries, _) ← within path (fun entries =>
        match entries.lookup key with
        | none => some (entries ++ [(key, .table .header assembly.current)], ())
        | some _ => none) assembly.finished
      some entries
  | .array path key => do
      let (entries, _) ← within path (fun entries =>
        match entries.lookup key with
        | none => some (entries ++ [(key, .tables [assembly.current])], ())
        | some (.tables items) =>
            some (replaceEntry key (.tables (items ++ [assembly.current])) entries, ())
        | some _ => none) assembly.finished
      some entries

/-- Write a value under a key of the current table. -/
def Assembly.assign (assembly : Assembly) (path : List String) (key : String) (value : Value) :
    Option Assembly := do
  let current ← Toml.assign path key value assembly.current
  some { assembly with current := current }

/-- Start a table by its header.  If it was implied before, what is in it stays in it. -/
def Assembly.openTable (assembly : Assembly) (path : List String) (key : String) :
    Option Assembly := do
  let finished ← assembly.close
  let (rest, current) ← within path (fun entries =>
    match entries.lookup key with
    | none => some (entries, [])
    | some (.table .implied old) => some (entries.filter (·.1 != key), old)
    | some _ => none) finished
  some ⟨rest, .table path key, current⟩

/-- Start a further table of an array by its header. -/
def Assembly.openArray (assembly : Assembly) (path : List String) (key : String) :
    Option Assembly := do
  let finished ← assembly.close
  let (rest, _) ← within path (fun entries =>
    match entries.lookup key with
    | none => some (entries ++ [(key, .tables [])], ())
    | some (.tables _) => some (entries, ())
    | some _ => none) finished
  some ⟨rest, .array path key, []⟩

/-- The entries of the whole document. -/
def Assembly.finish (assembly : Assembly) : Option (List (String × Value)) :=
  entriesToValues <$> assembly.close

end WaveMedium.Toml
