/-
Module: WaveMedium.Tensor.Extrema
Purpose: The largest and the smallest value of a box.
Main exports:
  negativeInfinity, positiveInfinity, Tensor.largest, Tensor.smallest
-/
import WaveMedium.Number.Scalar
import WaveMedium.Tensor.Basic

namespace WaveMedium

open Number

/-- Positive infinity. -/
def positiveInfinity : Float := 1.0 / 0.0

/-- Negative infinity. -/
def negativeInfinity : Float := -1.0 / 0.0

/-- The largest value of a box.  Undefined values are passed over; without others it is negative
infinity. -/
def Tensor.largest (t : Tensor Float) : Float := t.foldl larger negativeInfinity

/-- The smallest value of a box.  Undefined values are passed over; without others it is positive
infinity. -/
def Tensor.smallest (t : Tensor Float) : Float := t.foldl smaller positiveInfinity

end WaveMedium
