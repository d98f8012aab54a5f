/-
Module: WaveMedium.Message
Purpose: How numbers and lists are written in messages and reports.
Main exports:
  Message.number, Message.numbers, Message.counts, Message.bracketed
-/
import WaveMedium.Number.Decimal

namespace WaveMedium.Message

open Number

/-- Numbers are written in full from one ten-thousandth up to but not including ten to the sixteenth,
and with an exponent otherwise. -/
def numberStyle : Decimal.Style where
  plainFrom := -4
  plainBelow := 16
  undefinedText := "NaN"
  infiniteText := "inf"

/-- A number in a message. -/
def number (x : Float) : String := numberStyle.write x

/-- A list in square brackets, its members separated by a comma and a space. -/
def bracketed (items : List String) : String := "[" ++ ", ".intercalate items ++ "]"

/-- A list of numbers in a message. -/
def numbers (xs : List Float) : String := bracketed (xs.map number)

/-- A list of counts in a message. -/
def counts (ns : List Nat) : String := bracketed (ns.map toString)

/-- A text in double quotes, for texts that hold neither quotes nor backslashes. -/
def quoted (text : String) : String := "\"" ++ text ++ "\""

end WaveMedium.Message
