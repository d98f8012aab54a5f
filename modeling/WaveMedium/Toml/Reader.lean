/-
Module: WaveMedium.Toml.Reader
Purpose: Reading characters, blanks, comments and ends of lines.
Main exports:
  Toml.Reader, expect, expectAll, peek, run, optionally, newline, comment, endOfLine, filler
-/

namespace WaveMedium.Toml

/-- A reader takes characters from the front of the input, or refuses it. -/
abbrev Reader := StateT (List Char) Option

/-- Take one given character. -/
def expect (c : Char) : Reader Unit := fun input =>
  match input with
  | d :: rest => if d = c then some ((), rest) else none
  | [] => none

/-- Take the given characters. -/
def expectAll : List Char → Reader Unit
  | [] => pure ()
  | c :: cs => do expect c; expectAll cs

/-- The next character, which stays where it is. -/
def peek : Reader (Option Char) := fun input => some (input.head?, input)

/-- Take characters as long as they pass a test. -/
def run (test : Char → Bool) : Reader (List Char) := fun input =>
  some (input.takeWhile test, input.dropWhile test)

/-- Read what is there, or nothing. -/
def optionally {α : Type} (reader : Reader α) : Reader (Option α) :=
  (some <$> reader) <|> pure none

/-- Accept the end of the input only. -/
def atEnd : Reader Unit := fun input => if input.isEmpty then some ((), input) else none

/-! ### Blanks and lines -/

/-- Blanks are spaces and tabs. -/
def isBlank (c : Char) : Bool := c = ' ' || c = '\t'

/-- Comments and texts hold no control characters other than tabs. -/
def isPlain (c : Char) : Bool := c = '\t' || (32 ≤ c.toNat && c.toNat ≠ 127)

/-- Pass over blanks. -/
def blanks : Reader Unit := do
  let _ ← run isBlank

/-- A line feed, or a carriage return and a line feed. -/
def newline : Reader Unit := expect '\n' <|> expectAll ['\r', '\n']

/-- A comment up to the end of its line. -/
def comment : Reader Unit := do
  expect '#'
  let _ ← run isPlain

/-- The rest of a line after its content: blanks, perhaps a comment, and the end. -/
def endOfLine : Reader Unit := do
  blanks
  let _ ← optionally comment
  newline <|> atEnd

/-- Pass over blanks, comments and ends of lines between the members of an array. -/
def fillerWithin : Nat → Reader Unit
  | 0 => pure ()
  | fuel + 1 => do
      blanks
      match ← peek with
      | some '#' => do comment; fillerWithin fuel
      | some '\n' => do newline; fillerWithin fuel
      | some '\r' => do newline; fillerWithin fuel
      | _ => pure ()

/-- Pass over blanks, comments and ends of lines.  Each round takes a character, so the length of the
input bounds their number. -/
def filler : Reader Unit := do fillerWithin ((← get).length + 1)

end WaveMedium.Toml
