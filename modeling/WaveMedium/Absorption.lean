/-
Module: WaveMedium.Absorption
Purpose: The profile of the absorbing layer around the physical region.
Main exports:
  Absorption.Role, Absorption.coefficient, Absorption.ramp, Absorption.shareAt, Absorption.profile,
  Absorption.field
-/
import WaveMedium.Field.Stored
import WaveMedium.Number.Elementary

/-!
Waves that reach the edge of the grid are absorbed in a layer around the physical region.  The
absorption grows from the inside outward as `C (p - sin (2 pi p) / (2 pi))`, where `p` runs up to one
on the outermost row and `C` is chosen for the reflection that may remain.  The ramp is flat at both
ends.  The shares of different axes add up, so corners absorb more than faces.
-/

namespace WaveMedium.Absorption

open Number

/-- What the layer is used for: to damp waves, or to taper material values by a mask. -/
inductive Role where
  | damping
  | mask
deriving DecidableEq, Repr

/-- The value inside the physical region. -/
def Role.base : Role → Float
  | .damping => 0.0
  | .mask => 1.0

/-- The share of a row as it enters the profile: a mask is lowered where damping is raised. -/
def Role.signed : Role → Float → Float
  | .damping, share => share
  | .mask, share => -share

/-- The reflection that may remain. -/
def reflection : Float := 0.001

/-- The strength of the layer. -/
def coefficient : Float := 1.5 * naturalLog (1.0 / reflection) / 40.0

/-- The share of the row at `distance` from the outermost row of a layer of the given width. -/
def ramp (distance width : Nat) : Float :=
  let position :=
    ((Float.ofNat width - Float.ofNat (distance + 1) + 1.0) / Float.ofNat width).abs
  coefficient * (position - sine (2.0 * pi * position) / (2.0 * pi))

/-- The share of a row at any distance that can be counted. -/
def shareAt (width distance : Nat) : Outcome Float := do
  checkSizes [distance + 1]
  return ramp distance width

/-- Add a share to the two rows of an axis that stand at `distance` from its ends. -/
def addRows (share : Float) (distance axis : Nat) (values : Tensor Float) : Tensor Float :=
  let n := values.shape.getD axis 0
  (values.mapRow axis distance (· + share)).mapRow axis (n - 1 - distance) (· + share)

/-- Add the shares of all axes for the rows at one distance. -/
def addDistance (role : Role) (width : Nat) (spacing : List Float) (values : Tensor Float)
    (distance : Nat) : Tensor Float :=
  let strength := role.signed (ramp distance width)
  spacing.zipIdx.foldl
    (fun values (step, axis) => addRows (strength / step) distance axis values) values

/-- The profile over a physical region of the given shape and the layer around it.  There has to be one
spacing per axis.  The base value fills the region first, so the region has to be storable by itself. -/
def profile (interior : List Nat) (width : Nat) (spacing : List Float) (role : Role) :
    Outcome (Tensor Float) := do
  if spacing.length ≠ interior.length then throw (.fault .rankMismatch)
  checkStorable interior
  let base ← (Tensor.full interior role.base).pad
    (List.replicate interior.length (Margin.even width)) .edge
  return (List.range width).foldl (addDistance role width spacing) base

/-- The name of the profile's field. -/
def fieldName : String := "damp"

/-- The profile as a field of the grid, without a halo. -/
def field (grid : Grid Float) (width : Nat) (spacing : List Float) (role : Role) :
    Outcome StoredField := do
  let interior ← grid.interior.shape
  let values ← profile interior width spacing role
  let empty ← StoredField.ofOrder fieldName grid 0
  empty.extendFrom values 0 .edge

end WaveMedium.Absorption
