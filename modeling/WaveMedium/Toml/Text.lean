/-
Module: WaveMedium.Toml.Text
Purpose: Quoted texts in their four forms.
Main exports:
  Toml.readText, Toml.readKeyText
-/
import WaveMedium.Toml.Reader

namespace WaveMedium.Toml

/-! ### Escapes -/

/-- The value of a hexadecimal digit. -/
def hexDigit? (c : Char) : Option Nat :=
  if '0' ≤ c && c ≤ '9' then some (c.toNat - '0'.toNat)
  else if 'a' ≤ c && c ≤ 'f' then some (c.toNat - 'a'.toNat + 10)
  else if 'A' ≤ c && c ≤ 'F' then some (c.toNat - 'A'.toNat + 10)
  else none

/-- The character with a hexadecimal number.  Numbers that no character has are refused. -/
def hexChar? (digits : List Char) : Option Char := do
  let n ← digits.foldlM (fun n c => (n * 16 + ·) <$> hexDigit? c) 0
  if n.isValidChar then some (Char.ofNat n) else none

/-- The character that a backslash and one letter stand for. -/
def escapeLetter? : Char → Option Char
  | 'b' => some (Char.ofNat 8)
  | 't' => some '\t'
  | 'n' => some '\n'
  | 'f' => some (Char.ofNat 12)
  | 'r' => some '\r'
  | '"' => some '"'
  | '\\' => some '\\'
  | _ => none

/-! ### Texts on one line -/

/-- The rest of a text in double quotes, with its escapes resolved. -/
def basicRest : List Char → Option (List Char × List Char)
  | '"' :: rest => some ([], rest)
  | '\\' :: 'u' :: a :: b :: c :: d :: rest => do
      let char ← hexChar? [a, b, c, d]
      let (text, rest) ← basicRest rest
      some (char :: text, rest)
  | '\\' :: 'U' :: a :: b :: c :: d :: e :: f :: g :: h :: rest => do
      let char ← hexChar? [a, b, c, d, e, f, g, h]
      let (text, rest) ← basicRest rest
      some (char :: text, rest)
  | '\\' :: letter :: rest => do
      let char ← escapeLetter? letter
      let (text, rest) ← basicRest rest
      some (char :: text, rest)
  | char :: rest => do
      guard (isPlain char && char ≠ '\\')
      let (text, rest) ← basicRest rest
      some (char :: text, rest)
  | [] => none

/-- The rest of a text in single quotes, in which nothing is an escape. -/
def literalRest : List Char → Option (List Char × List Char)
  | '\'' :: rest => some ([], rest)
  | char :: rest => do
      guard (isPlain char)
      let (text, rest) ← literalRest rest
      some (char :: text, rest)
  | [] => none

/-! ### Texts on several lines -/

/-- Up to two quotes right before the closing three belong to the text. -/
def closingQuotes (quote : Char) : List Char → List Char × List Char
  | a :: b :: rest =>
      if a = quote then if b = quote then ([a, b], rest) else ([a], b :: rest)
      else ([], a :: b :: rest)
  | [a] => if a = quote then ([a], []) else ([], [a])
  | [] => ([], [])

/-- The rest of a text in triple double quotes.  After a backslash at the end of a line, and in the state
`trimming`, blanks and ends of lines are passed over. -/
def multiBasicRest : Bool → List Char → Option (List Char × List Char)
  | trimming, input =>
      match input with
      | [] => none
      | '"' :: '"' :: '"' :: rest => some (closingQuotes '"' rest)
      | '\r' :: '\n' :: rest =>
          if trimming then multiBasicRest true rest
          else do
            let (text, rest) ← multiBasicRest false rest
            some ('\n' :: text, rest)
      | '\n' :: rest =>
          if trimming then multiBasicRest true rest
          else do
            let (text, rest) ← multiBasicRest false rest
            some ('\n' :: text, rest)
      | '\\' :: 'u' :: a :: b :: c :: d :: rest => do
          let char ← hexChar? [a, b, c, d]
          let (text, rest) ← multiBasicRest false rest
          some (char :: text, rest)
      | '\\' :: 'U' :: a :: b :: c :: d :: e :: f :: g :: h :: rest => do
          let char ← hexChar? [a, b, c, d, e, f, g, h]
          let (text, rest) ← multiBasicRest false rest
          some (char :: text, rest)
      | '\\' :: letter :: rest =>
          if isBlank letter || letter = '\n' || letter = '\r' then do
            let ahead := (letter :: rest).dropWhile isBlank
            guard (ahead.take 1 == ['\n'] || ahead.take 2 == ['\r', '\n'])
            multiBasicRest true rest
          else do
            let char ← escapeLetter? letter
            let (text, rest) ← multiBasicRest false rest
            some (char :: text, rest)
      | char :: rest =>
          if trimming && isBlank char then multiBasicRest true rest
          else do
            guard (isPlain char && char ≠ '\\')
            let (text, rest) ← multiBasicRest false rest
            some (char :: text, rest)

/-- The rest of a text in triple single quotes. -/
def multiLiteralRest : List Char → Option (List Char × List Char)
  | '\'' :: '\'' :: '\'' :: rest => some (closingQuotes '\'' rest)
  | '\r' :: '\n' :: rest => do
      let (text, rest) ← multiLiteralRest rest
      some ('\n' :: text, rest)
  | char :: rest => do
      guard (isPlain char || char = '\n')
      let (text, rest) ← multiLiteralRest rest
      some (char :: text, rest)
  | [] => none

/-- An end of line right after the opening quotes does not belong to the text. -/
def dropFirstNewline : List Char → List Char
  | '\n' :: rest => rest
  | '\r' :: '\n' :: rest => rest
  | input => input

/-! ### All forms -/

/-- A quoted text of one of the four forms. -/
def readText : Reader String := fun input => do
  let (text, rest) ← match input with
    | '"' :: '"' :: '"' :: rest => multiBasicRest false (dropFirstNewline rest)
    | '"' :: rest => basicRest rest
    | '\'' :: '\'' :: '\'' :: rest => multiLiteralRest (dropFirstNewline rest)
    | '\'' :: rest => literalRest rest
    | _ => none
  some (String.ofList text, rest)

/-- A quoted key, which stays on one line. -/
def readKeyText : Reader String := fun input => do
  let (text, rest) ← match input with
    | '"' :: rest => basicRest rest
    | '\'' :: rest => literalRest rest
    | _ => none
  some (String.ofList text, rest)

end WaveMedium.Toml
