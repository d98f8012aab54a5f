/-
Module: WaveMedium.Number.Scalar
Purpose: The arithmetic in which lengths and times are computed.
Main exports:
  Scalar, the instances for Float and Rat
-/
import WaveMedium.Number.Binary

namespace WaveMedium

open Number

/-- Arithmetic of lengths and times.  The library runs in double precision; the same formulas over
the rational numbers say what they mean when nothing is rounded. -/
class Scalar (α : Type) extends Add α, Sub α, Mul α, Div α where
  /-- A count as a number. -/
  ofNat : Nat → α
  /-- The decimal `digits / 10 ^ places`. -/
  ofDecimal : Nat → Nat → α
  /-- Absolute value. -/
  abs : α → α
  /-- The largest whole number that is at most the argument. -/
  floor : α → α
  /-- The nearest whole number, a half going away from zero. -/
  nearest : α → α
  /-- The larger of two numbers. -/
  larger : α → α → α
  /-- Whether the first number is at most the second. -/
  atMost : α → α → Bool
  /-- Whether the number is neither infinite nor undefined. -/
  isFinite : α → Bool

namespace Number

/-- The larger of two doubles.  If one is not a number the other is taken. -/
def larger (a b : Float) : Float := if a.isNaN || a < b then b else a

/-- The smaller of two doubles.  If one is not a number the other is taken. -/
def smaller (a b : Float) : Float := if a.isNaN || b < a then b else a

end Number

instance : Scalar Float where
  ofNat := Float.ofNat
  ofDecimal digits places := Float.ofScientific digits true places
  abs := Float.abs
  floor x := (Binary.ofFloat x).floor.toFloat
  nearest x := (Binary.ofFloat x).nearestInteger.toFloat
  larger := Number.larger
  atMost a b := decide (a ≤ b)
  isFinite := Float.isFinite

instance : Scalar Rat where
  ofNat n := (n : Rat)
  ofDecimal digits places := (digits : Rat) / (Nat.pow 10 places : Nat)
  abs x := if 0 ≤ x then x else -x
  floor x := (x.floor : Rat)
  nearest x := if 0 ≤ x then ((x + 1 / 2).floor : Rat) else -((-x + 1 / 2).floor : Rat)
  larger a b := if a ≤ b then b else a
  atMost a b := decide (a ≤ b)
  isFinite _ := true

/-- Two numbers agree up to one part in a thousand million of the second, or of one if that is
larger. -/
def Scalar.close {α : Type} [Scalar α] (a b : α) : Bool :=
  Scalar.atMost (Scalar.abs (a - b))
    (Scalar.ofDecimal 1 9 * Scalar.larger (Scalar.abs b) (Scalar.ofNat 1))

end WaveMedium
