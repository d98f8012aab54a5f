/-
Module: WaveMedium.Toml.Parse
Purpose: Reading a whole TOML document.
Main exports:
  Toml.parse?
-/
import WaveMedium.Toml.Document
import WaveMedium.Toml.Text
import WaveMedium.Toml.Word

namespace WaveMedium.Toml

/-- Arrays and tables are nested less deep than this, and dotted keys have fewer parts. -/
def nestingLimit : Nat := 80

/-! ### Keys -/

/-- The characters of keys that need no quotes. -/
def isKeyChar (c : Char) : Bool := c.isAlphanum || c = '_' || c = '-'

/-- One part of a key. -/
def readKeyPart : Reader String := do
  match ← peek with
  | some '"' => readKeyText
  | some '\'' => readKeyText
  | _ =>
      let name ← run isKeyChar
      guard (!name.isEmpty)
      return String.ofList name

/-- The parts of a dotted key, with blanks around them. -/
def readKeyParts : Nat → Reader (List String)
  | 0 => failure
  | fuel + 1 => do
      blanks
      let part ← readKeyPart
      blanks
      if (← peek) = some '.' then
        expect '.'
        return part :: (← readKeyParts fuel)
      else return [part]

/-- A dotted key, as the path to its table and its last part. -/
def readKey : Reader (List String × String) := do
  let parts ← readKeyParts (nestingLimit - 1)
  match parts.getLast? with
  | some last => return (parts.dropLast, last)
  | none => failure

/-! ### Values -/

mutual

/-- A value.  The second number says how many brackets may still be opened. -/
def readValue : Nat → Nat → Reader Value
  | 0, _ => failure
  | fuel + 1, room => do
      match ← peek with
      | some '"' => .text <$> readText
      | some '\'' => .text <$> readText
      | some '[' =>
          expect '['
          match room with
          | 0 => failure
          | room + 1 => .array <$> readItems fuel room
      | some '\x7b' =>
          expect '\x7b'
          blanks
          match room with
          | 0 => failure
          | room + 1 =>
              if (← peek) = some '\x7d' then
                expect '\x7d'
                return .table []
              match inlineTable (← readPairs fuel room) with
              | some table => return table
              | none => failure
      | _ => Word.read

/-- The rest of an array, whose last comma may be superfluous. -/
def readItems : Nat → Nat → Reader (List Value)
  | 0, _ => failure
  | fuel + 1, room => do
      filler
      if (← peek) = some ']' then
        expect ']'
        return []
      let item ← readValue fuel room
      filler
      if (← peek) = some ',' then
        expect ','
        return item :: (← readItems fuel room)
      expect ']'
      return [item]

/-- The rest of a table on one line. -/
def readPairs : Nat → Nat → Reader (List (List String × String × Value))
  | 0, _ => failure
  | fuel + 1, room => do
      let (path, key) ← readKey
      expect '='
      blanks
      let value ← readValue fuel room
      blanks
      if (← peek) = some ',' then
        expect ','
        return (path, key, value) :: (← readPairs fuel room)
      expect '\x7d'
      return [(path, key, value)]

end

/-- A value on a line of its own.  Every reader above takes at least one character for each other reader
that it calls, so the length of the input bounds the calls. -/
def readWholeValue : Reader Value := do
  readValue (2 * (← get).length + 2) (nestingLimit - 1)

/-! ### Lines -/

/-- The header of a table, in one or two pairs of brackets. -/
def readHeader (assembly : Assembly) : Reader Assembly := do
  expect '['
  let isArray := (← peek) = some '['
  if isArray then expect '['
  let (path, key) ← readKey
  expect ']'
  if isArray then expect ']'
  endOfLine
  match if isArray then assembly.openArray path key else assembly.openTable path key with
  | some next => return next
  | none => failure

/-- A key and its value. -/
def readAssignment (assembly : Assembly) : Reader Assembly := do
  let (path, key) ← readKey
  expect '='
  blanks
  let value ← readWholeValue
  endOfLine
  match assembly.assign path key value with
  | some next => return next
  | none => failure

/-- The lines of a document. -/
def readLines : Nat → Assembly → Reader Assembly
  | 0, _ => failure
  | fuel + 1, assembly => do
      blanks
      match ← peek with
      | none => return assembly
      | some '#' => do endOfLine; readLines fuel assembly
      | some '\n' => do newline; readLines fuel assembly
      | some '\r' => do newline; readLines fuel assembly
      | some '[' => do readLines fuel (← readHeader assembly)
      | some _ => do readLines fuel (← readAssignment assembly)

/-- A byte order mark in front of a document is passed over. -/
def dropByteOrderMark : List Char → List Char
  | c :: rest => if c.toNat = 0xFEFF then rest else c :: rest
  | [] => []

/-- The entries of a document, if it is well formed. -/
def parse? (document : String) : Option (List (String × Value)) := do
  let input := dropByteOrderMark document.toList
  let (assembly, _) ← readLines (input.length + 1) Assembly.empty input
  assembly.finish

end WaveMedium.Toml
