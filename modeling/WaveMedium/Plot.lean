/-
Module: WaveMedium.Plot
Purpose: The plane of a field that is plotted, and the place of its values on a colour scale.
Main exports:
  PlotError, Plot.plane, Plot.colourPosition
-/
import WaveMedium.Error
import WaveMedium.Number.Precision
import WaveMedium.Padding

namespace WaveMedium

/-- Why a field cannot be plotted. -/
inductive PlotError where
  /-- Only fields with one, two or three axes are plotted. -/
  | rank (axes : Nat)
  | fault (fault : Fault)
deriving DecidableEq, Repr

namespace Plot

/-- The plane of a field that is plotted: a line as a single column, a plane as it is, and of a body the
cut through the middle of its second axis. -/
def plane (t : Tensor Float) : Except PlotError (Tensor Float) :=
  match t.shape with
  | [n] => .ok (Tensor.ofFn [n, 1] fun index => t.getD (index.take 1) 0.0)
  | [_, _] => .ok t
  | [a, b, c] =>
      if b = 0 then .error (.fault .outOfRange)
      else .ok (Tensor.ofFn [a, c] fun index =>
        t.getD [index.getD 0 0, b / 2, index.getD 1 0] 0.0)
  | shape => .error (.rank shape.length)

/-- Keep a number between zero and one.  An undefined number stays undefined. -/
def clampUnit (x : Float) : Float :=
  if x < 0.0 then 0.0 else if 1.0 < x then 1.0 else x

/-- The place of a value on a colour scale from `least` to `greatest`, before it is rounded.  If the scale
has no length every value stands in the middle. -/
def scalePosition (value least greatest : Float) : Float :=
  clampUnit (if least < greatest then (value - least) / (greatest - least) else 0.5)

/-- The place of a value on a colour scale, in single precision. -/
def colourPosition (value least greatest : Float) : Float :=
  Precision.single.cast (scalePosition value least greatest)

end Plot

/-- The wording of a plotting error; a fault has none. -/
def PlotError.message? : PlotError → Option String
  | .rank axes => some s!"Cannot plot a {axes}-dimensional field"
  | .fault _ => none

end WaveMedium
