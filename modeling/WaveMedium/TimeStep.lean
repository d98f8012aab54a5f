/-
Module: WaveMedium.TimeStep
Purpose: Time steps in whole thousandths.
Main exports:
  TimeStep.truncate
-/
import WaveMedium.Number.Scalar

namespace WaveMedium.TimeStep

variable {α : Type} [Scalar α]

/-- A time step in thousandths, as a whole number.  It is the next lower one, except that a step which
agrees with a whole number of thousandths up to the tolerance is taken as that number. -/
def thousandths (step : α) : α :=
  let scaled := Scalar.ofNat 1000 * step
  let nearest := Scalar.nearest scaled
  if Scalar.close scaled nearest then nearest else Scalar.floor scaled

/-- Truncate a time step to three decimals. -/
def truncate (step : α) : α := thousandths step / Scalar.ofNat 1000

end WaveMedium.TimeStep
