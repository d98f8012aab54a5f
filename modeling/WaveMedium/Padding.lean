/-
Module: WaveMedium.Padding
Purpose: Extending a box of values outward.
Main exports:
  Filling, Margin.locate, Tensor.pad
-/
import WaveMedium.Region.Window

/-!
Material values are measured in the physical region only.  Before waves can be computed near its
faces they are continued across the absorbing layer and the halo, usually by repeating the nearest
measured value, so that the medium looks laterally homogeneous outside.
-/

namespace WaveMedium

/-- What is written outside the supplied cells. -/
inductive Filling where
  /-- The value of the nearest supplied cell. -/
  | edge
  | constant (value : Float)
deriving DecidableEq, Inhabited

/-- The cell of an axis of length `n` that stands nearest to coordinate `i` of the padded axis, and
whether `i` lies outside the axis.  After an axis without cells there is no nearest cell. -/
def Margin.locate (margin : Margin) (n i : Nat) : Outcome (Nat × Bool) :=
  if i < margin.before then .ok (0, true)
  else if i - margin.before < n then .ok (i - margin.before, false)
  else if n = 0 then .error (.fault .emptyAxis)
  else .ok (n - 1, true)

/-- The cell that stands nearest to an index of the padded box, and whether the index lies outside on
some axis. -/
def locate : List Margin → List Nat → List Nat → Outcome (List Nat × Bool)
  | margin :: margins, n :: shape, i :: index => do
      let (cell, outside) ← margin.locate n i
      let (cells, someOutside) ← locate margins shape index
      return (cell :: cells, outside || someOutside)
  | _, _, _ => .ok ([], false)

/-- The value of a cell, which has to be there. -/
def Tensor.read (t : Tensor Float) (index : List Nat) : Outcome Float :=
  match t.get? index with
  | some value => .ok value
  | none => .error (.fault .outOfRange)

/-- One cell of a padded box. -/
def Tensor.paddedCell (t : Tensor Float) (margins : List Margin) (filling : Filling)
    (index : List Nat) : Outcome Float := do
  let (cell, outside) ← locate margins t.shape index
  match filling, outside with
  | .constant value, true => return value
  | _, _ => t.read cell

/-- Add a margin to every axis.  The padded box has to be storable, with cells or without. -/
def Tensor.pad (t : Tensor Float) (margins : List Margin) (filling : Filling) :
    Outcome (Tensor Float) := do
  if margins.length ≠ t.shape.length then throw (.fault .rankMismatch)
  checkSizes (enlarge t.shape margins)
  checkStorable (enlarge t.shape margins)
  Tensor.ofFnM (enlarge t.shape margins) (t.paddedCell margins filling)

end WaveMedium
