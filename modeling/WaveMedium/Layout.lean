/-
Module: WaveMedium.Layout
Purpose: The physical grid, before the absorbing layer is added.
Main exports:
  Layout, Layout.validate, Layout.paddedShape, Layout.paddedOrigin, Layout.extent
-/
import WaveMedium.Grid
import WaveMedium.Region.Window

namespace WaveMedium

/-- A physical grid, and the number of points by which the absorbing layer extends it on every face. -/
structure Layout (α : Type) where
  origin : List α
  spacing : List α
  shape : List Nat
  layer : Nat
  precision : Precision
deriving DecidableEq, Repr

/-- The width of the absorbing layer if none is given. -/
def defaultLayer : Nat := 40

namespace Layout

variable {α : Type} [Scalar α]

/-- A length that cannot be the distance of two points. -/
def badStep (step : α) : Bool := Scalar.atMost step (Scalar.ofNat 0) || !Scalar.isFinite step

/-- What keeps the description from being a physical grid: lists of different lengths, a rank that is
not one, two or three, an axis without points, or points at no positive finite distance. -/
def defect? (layout : Layout α) : Option (LayoutDefect α) :=
  if layout.origin.length ≠ layout.spacing.length ∨
      layout.spacing.length ≠ layout.shape.length then
    some (.lengths layout.origin.length layout.spacing.length layout.shape.length)
  else if layout.shape.isEmpty ∨ 3 < layout.shape.length then some (.rank layout.shape.length)
  else if 0 ∈ layout.shape then some (.emptyAxis layout.shape)
  else if layout.spacing.any badStep then some (.spacing layout.spacing)
  else none

/-- Reject what is not a physical grid. -/
def validate (layout : Layout α) : Except (Failure α) Unit :=
  match layout.defect? with
  | some defect => .error (.rejected (.layout defect))
  | none => .ok ()

/-! ### The padded grid -/

/-- The number of points of each axis, with the layer on both faces. -/
def paddedShape (layout : Layout α) : Except (Failure α) (List Nat) := do
  let shape := layout.shape.map (· + 2 * layout.layer)
  checkSizes shape
  return shape

/-- The position of the first point of the layer. -/
def paddedOrigin (layout : Layout α) : List α :=
  List.zipWith (fun start step => start - step * Scalar.ofNat layout.layer)
    layout.origin layout.spacing

/-- The lengths of the padded grid. -/
def extent (layout : Layout α) : Except (Failure α) (List α) := do
  let shape ← layout.paddedShape
  if (shape.zip layout.spacing).any fun (n, _) => n == 0 then throw (.fault .sizeUnderflow)
  return List.zipWith (fun n step => step * Scalar.ofNat (n - 1)) shape layout.spacing

end Layout

end WaveMedium
