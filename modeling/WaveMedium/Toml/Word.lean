/-
Module: WaveMedium.Toml.Word
Purpose: Unquoted values: truth values, numbers, dates and times.
Main exports:
  Toml.Word.integer?, Toml.Word.float?, Toml.Word.moment?, Toml.readWord
-/
import WaveMedium.Toml.Reader
import WaveMedium.Toml.Value

/-!
An unquoted value extends as far as letters, digits and the marks of numbers and times do.  Nothing of
that kind can follow it, so its kind is decided from the whole word.
-/

namespace WaveMedium.Toml.Word

/-- A decimal digit. -/
def isDigit (c : Char) : Bool := '0' ≤ c && c ≤ '9'

/-- The value of a digit in a base of at most sixteen. -/
def digitIn? (base : Nat) (c : Char) : Option Nat := do
  let value ←
    if isDigit c then some (c.toNat - '0'.toNat)
    else if 'a' ≤ c && c ≤ 'f' then some (c.toNat - 'a'.toNat + 10)
    else if 'A' ≤ c && c ≤ 'F' then some (c.toNat - 'A'.toNat + 10)
    else none
  if value < base then some value else none

/-- The digits of a numeral.  Single underscores may stand between digits. -/
def digitsIn? (base : Nat) : List Char → Option (List Nat)
  | [] => none
  | [c] => do return [← digitIn? base c]
  | c :: '_' :: rest => do return (← digitIn? base c) :: (← digitsIn? base rest)
  | c :: rest => do return (← digitIn? base c) :: (← digitsIn? base rest)

/-- The number that digits stand for. -/
def valueIn (base : Nat) (digits : List Nat) : Nat :=
  digits.foldl (fun n digit => n * base + digit) 0

/-- The sign in front of a number, and the rest. -/
def sign : List Char → Bool × List Char
  | '-' :: rest => (true, rest)
  | '+' :: rest => (false, rest)
  | word => (false, word)

/-- A number with its sign. -/
def signed (negative : Bool) (n : Nat) : Int := if negative then -n else n

/-- Decimal digits that do not start with a superfluous zero. -/
def wholeDigits? (word : List Char) : Option (List Nat) := do
  let digits ← digitsIn? 10 word
  if digits.length = 1 ∨ digits.head? ≠ some 0 then some digits else none

/-! ### Integers -/

/-- Integers have sixty-four bits. -/
def inRange (n : Int) : Option Int :=
  let limit : Int := Nat.pow 2 63
  if -limit ≤ n ∧ n < limit then some n else none

/-- An integer in decimal, or without a sign in base sixteen, eight or two. -/
def integer? (word : List Char) : Option Int :=
  match word with
  | '0' :: 'x' :: digits => do inRange (valueIn 16 (← digitsIn? 16 digits))
  | '0' :: 'o' :: digits => do inRange (valueIn 8 (← digitsIn? 8 digits))
  | '0' :: 'b' :: digits => do inRange (valueIn 2 (← digitsIn? 2 digits))
  | _ => do
      let (negative, digits) := sign word
      inRange (signed negative (valueIn 10 (← wholeDigits? digits)))

/-! ### Numbers with a point or an exponent -/

/-- Divide a word at the first character that passes a test. -/
def divide (test : Char → Bool) (word : List Char) : List Char × Option (List Char) :=
  let before := word.takeWhile fun c => !test c
  match word.dropWhile fun c => !test c with
  | _ :: after => (before, some after)
  | [] => (before, none)

/-- The double nearest to `digits * 10 ^ exponent`.  An exponent beyond the reach of doubles is cut
to one that is still beyond it. -/
def scientific (digits : Nat) (exponent : Int) : Float :=
  if digits = 0 then 0.0
  else
    let reach : Int := 400 + Nat.log2 digits
    let power := max (-reach) (min reach exponent)
    Float.ofScientific digits (decide (power < 0)) power.natAbs

/-- A number with a point, an exponent or both.  One that is too large is refused, but its negative
counterpart is negative infinity. -/
def decimal? (word : List Char) : Option Float := do
  let (negative, unsigned) := sign word
  let (mantissa, power) := divide (fun c => c = 'e' || c = 'E') unsigned
  let (whole, fraction) := divide (· = '.') mantissa
  guard (power.isSome || fraction.isSome)
  let wholes ← wholeDigits? whole
  let fractions ← match fraction with
    | some digits => digitsIn? 10 digits
    | none => some []
  let exponent ← match power with
    | some word =>
        let (negative, digits) := sign word
        (fun digits => signed negative (valueIn 10 digits)) <$> digitsIn? 10 digits
    | none => some 0
  let size := scientific (valueIn 10 (wholes ++ fractions)) (exponent - fractions.length)
  if size.isInf && !negative then none
  else some (if negative then -size else size)

/-- Infinity and the undefined number, with or without a sign. -/
def special? (word : List Char) : Option Float :=
  let (negative, name) := sign word
  if name = ['i', 'n', 'f'] then some (if negative then -(1.0 / 0.0) else 1.0 / 0.0)
  else if name = ['n', 'a', 'n'] then some (0.0 / 0.0)
  else none

/-- A number that is not an integer. -/
def float? (word : List Char) : Option Float := decimal? word <|> special? word

/-! ### Dates and times -/

/-- A number of exactly two digits up to a largest one. -/
def twoDigits? (least most : Nat) (a b : Char) : Option Nat := do
  let n := 10 * (← digitIn? 10 a) + (← digitIn? 10 b)
  if least ≤ n ∧ n ≤ most then some n else none

/-- Every fourth year has a leap day, except the full centuries that four hundred does not divide. -/
def isLeapYear (year : Nat) : Bool :=
  year % 4 == 0 && (year % 100 != 0 || year % 400 == 0)

/-- The days of a month. -/
def daysOf (year month : Nat) : Nat :=
  if month = 2 then if isLeapYear year then 29 else 28
  else if month = 4 ∨ month = 6 ∨ month = 9 ∨ month = 11 then 30
  else 31

/-- The rest of a word after a date. -/
def afterDate? : List Char → Option (List Char)
  | a :: b :: c :: d :: '-' :: m :: n :: '-' :: x :: y :: rest => do
      let year := valueIn 10 (← [a, b, c, d].mapM (digitIn? 10))
      let month ← twoDigits? 1 12 m n
      let day ← twoDigits? 1 31 x y
      guard (day ≤ daysOf year month)
      some rest
  | _ => none

/-- The rest of a word after a time of day. -/
def afterTime? : List Char → Option (List Char)
  | a :: b :: ':' :: c :: d :: ':' :: e :: f :: rest => do
      let _ ← twoDigits? 0 23 a b
      let _ ← twoDigits? 0 59 c d
      let _ ← twoDigits? 0 60 e f
      match rest with
      | '.' :: fraction => do
          guard ((fraction.takeWhile isDigit).length ≠ 0)
          some (fraction.dropWhile isDigit)
      | _ => some rest
  | _ => none

/-- Whether the rest of a word is the distance from universal time, or nothing. -/
def isOffset : List Char → Bool
  | [] => true
  | [c] => c = 'Z' || c = 'z'
  | [s, a, b, ':', c, d] =>
      (s = '+' || s = '-') && (twoDigits? 0 23 a b).isSome && (twoDigits? 0 59 c d).isSome
  | _ => false

/-- Whether a word is a time with an optional offset. -/
def isTimeOfDate (word : List Char) : Bool := (afterTime? word).any isOffset

/-- Whether a word is a date with an optional time, or a time. -/
def isMoment (word : List Char) : Bool :=
  match afterDate? word with
  | some [] => true
  | some ('T' :: rest) => isTimeOfDate rest
  | some ('t' :: rest) => isTimeOfDate rest
  | some _ => false
  | none => afterTime? word == some []

/-! ### Words -/

/-- The characters of unquoted values. -/
def isWordChar (c : Char) : Bool :=
  c.isAlphanum || c = '_' || c = '+' || c = '-' || c = '.' || c = ':'

/-- The value of a word. -/
def value? (word : List Char) : Option Value :=
  if word = "true".toList then some (.boolean true)
  else if word = "false".toList then some (.boolean false)
  else if isMoment word then some .moment
  else match float? word with
    | some x => some (.float x)
    | none => .integer <$> integer? word

/-- An unquoted value.  A date may be followed by one space and a time. -/
def read : Reader Value := do
  let word ← run isWordChar
  if afterDate? word = some [] then
    let next ← get
    match next with
    | ' ' :: c :: _ =>
        if isDigit c then
          expect ' '
          let time ← run isWordChar
          guard (isTimeOfDate time)
    | _ => pure ()
  match value? word with
  | some value => pure value
  | none => failure

end WaveMedium.Toml.Word
