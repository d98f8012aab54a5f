/-
Module: WaveMedium.Field.Quantity
Purpose: Supplied values of a physical quantity.
Main exports:
  Quantity, Quantity.map, Quantity.largest
-/
import WaveMedium.Error
import WaveMedium.Tensor.Extrema

namespace WaveMedium

/-- Values of a physical quantity as they are supplied: one value, or one per point of the physical
region. -/
inductive Quantity where
  | uniform (value : Float)
  | varying (values : Tensor Float)
deriving DecidableEq

namespace Quantity

/-- Whether there is one value or one per point. -/
def representation : Quantity → Representation
  | .uniform _ => .uniform
  | .varying _ => .varying

/-- Whether there is one value per point. -/
def isVarying : Quantity → Bool
  | .uniform _ => false
  | .varying _ => true

/-- The largest value. -/
def largest : Quantity → Float
  | .uniform value => value
  | .varying values => values.largest

/-- Apply a function to every value. -/
def map (f : Float → Float) : Quantity → Quantity
  | .uniform value => .uniform (f value)
  | .varying values => .varying (values.map f)

/-- Whether there is a value and all values have a property. -/
def allValues (test : Float → Bool) : Quantity → Bool
  | .uniform value => test value
  | .varying values => !values.isEmpty && values.all test

end Quantity

end WaveMedium
