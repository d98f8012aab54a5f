/-
Module: WaveMedium.Geometry
Purpose: The padded grid of a medium and the fields on it.
Main exports:
  Geometry, Geometry.new, Geometry.domainSize, Geometry.field, Geometry.extend
-/
import WaveMedium.Absorption
import WaveMedium.Field.Basic
import WaveMedium.Layout

namespace WaveMedium

/-- The physical grid of a medium and the padded grid around it. -/
structure Geometry (α : Type) where
  shape : List Nat
  layer : Nat
  origin : List α
  spacing : List α
  grid : Grid α
deriving DecidableEq, Repr

namespace Geometry

/-! ### Building -/

section Building

variable {α : Type} [Scalar α]

/-- Whether two lists of numbers agree up to the tolerance for lengths. -/
def allClose (found expected : List α) : Bool :=
  found.length == expected.length && (found.zip expected).all fun (a, b) => Scalar.close a b

/-- How a supplied grid differs from the padded grid of the layout.  Lengths may differ by the
tolerance; spacing and precision are not compared. -/
def mismatch? (supplied : Grid α) (shape : List Nat) (extent origin : List α)
    (interior : Region) : Option (GridMismatch α) :=
  if supplied.shape ≠ shape then some (.shape supplied.shape shape)
  else if !allClose supplied.extent extent then some (.extent supplied.extent extent)
  else if supplied.interior ≠ interior then some (.interior supplied.interior interior)
  else if !allClose supplied.origin origin then some (.origin supplied.origin origin)
  else none

/-- A supplied grid that agrees with the parts of a padded grid, or the grid of these parts. -/
def chooseGrid (precision : Precision) (shape : List Nat) (extent origin : List α)
    (interior : Region) (supplied : Option (Grid α)) : Except (Failure α) (Grid α) :=
  match supplied with
  | none => Grid.new extent shape origin precision interior
  | some grid =>
      match mismatch? grid shape extent origin interior with
      | some difference => .error (.rejected (.mismatch difference))
      | none => .ok grid

/-- Build the padded grid of a layout, or take a supplied grid that agrees with it. -/
def new (layout : Layout α) (supplied : Option (Grid α)) : Except (Failure α) (Geometry α) := do
  layout.validate
  let shape ← layout.paddedShape
  let extent ← layout.extent
  let interior ← Region.inset layout.shape layout.layer
  let grid ← chooseGrid layout.precision shape extent layout.paddedOrigin interior supplied
  return {
    shape := layout.shape
    layer := layout.layer
    origin := layout.origin
    spacing := layout.spacing
    grid := grid }

/-- The number of axes. -/
def rank (geometry : Geometry α) : Nat := geometry.shape.length

/-- The lengths of the physical region. -/
def domainSize (geometry : Geometry α) : List α :=
  List.zipWith (fun n step => step * Scalar.ofNat (n - 1)) geometry.shape geometry.spacing

/-- The precision in which values are stored, which is that of the grid. -/
def precision (geometry : Geometry α) : Precision := geometry.grid.precision

end Building

/-! ### Fields -/

/-- The absorbing layer of the medium. -/
def absorption (geometry : Geometry Float) (role : Absorption.Role) : Outcome StoredField :=
  Absorption.field geometry.grid geometry.layer geometry.spacing role

/-- Write values of the physical region into a field of the padded grid. -/
def extend (geometry : Geometry Float) (values : Tensor Float) : Change StoredField Unit := do
  let field ← get
  if values.shape = geometry.shape then StoredField.extend values geometry.layer .edge
  else throw (.rejected (.shape field.name geometry.shape values.shape))

/-- A uniform field of the medium. -/
def uniformField (geometry : Geometry Float) (name : String) (value : Float) : Field :=
  .uniform (UniformField.ofValue name geometry.precision value)

/-- The field of a supplied quantity.  Values per point are extended over the absorbing layer and a halo
for a stencil of the given order. -/
def field (geometry : Geometry Float) (name : String) (quantity : Quantity) (order : Nat) :
    Outcome Field :=
  match quantity with
  | .uniform value => .ok (geometry.uniformField name value)
  | .varying values => do
      let empty ← StoredField.ofOrder name geometry.grid order
      let filled ← (geometry.extend values).result empty
      return .varying filled

/-- The distance of the closest neighbouring points on any axis. -/
def leastSpacing (geometry : Geometry Float) : Float :=
  geometry.spacing.foldl Number.smaller positiveInfinity

end Geometry

end WaveMedium
