/-
Module: WaveMedium.Grid
Purpose: The padded grid on which the values of a medium are stored.
Main exports:
  Grid, Grid.new, Grid.coord, Grid.contains
-/
import WaveMedium.Error
import WaveMedium.Number.Precision
import WaveMedium.Number.Scalar
import WaveMedium.Tensor.Index

namespace WaveMedium

/-- A grid that covers the physical region and the absorbing layer around it.  Shape, extent and
origin include the layer; `interior` selects the physical region. -/
structure Grid (α : Type) where
  shape : List Nat
  extent : List α
  origin : List α
  spacing : List α
  precision : Precision
  interior : Region
deriving DecidableEq, Repr

namespace Grid

variable {α : Type} [Scalar α]

/-- The distance of neighbouring points on an axis.  A single point has no neighbour, and its distance
is zero. -/
def cellSize (extent : α) (n : Nat) : α :=
  if 1 < n then extent / Scalar.ofNat (n - 1) else Scalar.ofNat 0

/-- What keeps the parts from being a grid: lists of different lengths, an axis without points, or an
interior that ends outside its axis. -/
def defect? (extent : List α) (shape : List Nat) (origin : List α) (interior : Region) :
    Option GridDefect :=
  if extent.length ≠ shape.length ∨ origin.length ≠ shape.length ∨
      interior.spans.length ≠ shape.length then
    some (.lengths extent.length shape.length origin.length interior.spans.length)
  else if 0 ∈ shape then some (.emptyAxis shape)
  else
    ((interior.spans.zip shape).find? fun (span, n) => n < span.stop).map
      fun (span, n) => .outside span n

/-- Put a grid together and compute the distances of its points. -/
def new (extent : List α) (shape : List Nat) (origin : List α) (precision : Precision)
    (interior : Region) : Except (Failure α) (Grid α) :=
  match defect? extent shape origin interior with
  | some defect => .error (.rejected (.grid defect))
  | none => .ok
      { shape := shape
        extent := extent
        origin := origin
        spacing := List.zipWith cellSize extent shape
        precision := precision
        interior := interior }

/-- The number of axes. -/
def rank (grid : Grid α) : Nat := grid.shape.length

/-- The position of point `i` of an axis. -/
def coord (grid : Grid α) (axis i : Nat) : Except (Failure α) α :=
  match grid.origin[axis]?, grid.spacing[axis]? with
  | some start, some step => .ok (start + step * Scalar.ofNat i)
  | _, _ => .error (.fault .outOfRange)

/-- Whether the index is that of a point. -/
def contains (grid : Grid α) (index : List Nat) : Bool := decide (InBox grid.shape index)

end Grid

end WaveMedium
