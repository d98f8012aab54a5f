/-
Module: WaveMedium.Field.Stored
Purpose: Fields with one stored value per point of the padded grid and of the halo around it.
Main exports:
  StoredField, StoredField.zeros, StoredField.overwrite, StoredField.extend,
  StoredField.data, StoredField.interior
-/
import WaveMedium.Change
import WaveMedium.Grid
import WaveMedium.Padding
import WaveMedium.Tensor.Extrema

/-!
A stored field covers the padded grid and, around it, a halo for the finite-difference stencil.  The
halo may be wider on one side than on the other.  What is stored has been rounded to the precision of
the field, except where single cells are overwritten.
-/

namespace WaveMedium

/-- A field with stored values.  Each axis of the storage has a halo, and is at least as long as the
halo is wide.  Its length can be counted. -/
structure StoredField where
  name : String
  halo : List Margin
  spaceOrder : Nat
  precision : Precision
  storage : Tensor Float
  haloFits : MarginsFit storage.shape halo
  sizesFit : SizesFit storage.shape

namespace StoredField

/-! ### Building -/

/-- The order of the widest stencil that the halo admits. -/
def orderOf (halo : List Margin) : Nat :=
  halo.foldl (fun order margin => max order (max margin.before margin.after)) 0

/-- A field of zeros on the padded grid with a given halo.  The shorter of shape and halo decides the
rank of the storage.  No axis of a grid is empty, so the storage has cells and is `Storable`. -/
def zeros (name : String) (grid : Grid Float) (halo : List Margin) : Outcome StoredField :=
  if fit : SizesFit (enlarge grid.shape halo) then
    .ok {
      name := name
      halo := halo
      spaceOrder := orderOf halo
      precision := grid.precision
      storage := Tensor.full (enlarge grid.shape halo) 0.0
      haloFits := marginsFit_enlarge grid.shape halo
      sizesFit := fit }
  else .error (.fault .sizeOverflow)

/-- A halo of the same width on all sides. -/
def evenHalo (grid : Grid Float) (order : Nat) : List Margin :=
  List.replicate grid.rank (Margin.even order)

/-- A field of zeros with a halo for a stencil of the given order. -/
def ofOrder (name : String) (grid : Grid Float) (order : Nat) : Outcome StoredField := do
  let field ← zeros name grid (evenHalo grid order)
  return { field with spaceOrder := order }

/-! ### Reading -/

/-- The shape of the padded grid, without the halo. -/
def shape (field : StoredField) : List Nat := shrink field.storage.shape field.halo

/-- The values on the padded grid, without the halo. -/
def data (field : StoredField) : Tensor Float :=
  field.storage.window
    (List.zipWith (fun n margin => ⟨margin.before, n - margin.before - margin.after⟩)
      field.storage.shape field.halo)

/-- The values in a region of the padded grid. -/
def interior (field : StoredField) (region : Region) : Outcome (Tensor Float) :=
  region.crop field.data

/-- The value at a point of the padded grid. -/
def valueAt? (field : StoredField) (index : List Nat) : Option Float := field.data.get? index

/-- The largest stored value. -/
def largest (field : StoredField) : Float := field.storage.largest

/-- The smallest stored value. -/
def smallest (field : StoredField) : Float := field.storage.smallest

/-! ### Writing -/

/-- The field with other values in its storage, of which there is one per cell. -/
def withStorage (field : StoredField) (values : Tensor Float)
    (same : values.shape = field.storage.shape) : StoredField where
  name := field.name
  halo := field.halo
  spaceOrder := field.spaceOrder
  precision := field.precision
  storage := values
  haloFits := same ▸ field.haloFits
  sizesFit := same ▸ field.sizesFit

section Frame

variable (field : StoredField) (values : Tensor Float) (same : values.shape = field.storage.shape)

@[simp] theorem name_withStorage : (field.withStorage values same).name = field.name := rfl

@[simp] theorem halo_withStorage : (field.withStorage values same).halo = field.halo := rfl

@[simp] theorem spaceOrder_withStorage :
    (field.withStorage values same).spaceOrder = field.spaceOrder := rfl

@[simp] theorem precision_withStorage :
    (field.withStorage values same).precision = field.precision := rfl

@[simp] theorem storage_withStorage : (field.withStorage values same).storage = values := rfl

@[simp] theorem shape_withStorage : (field.withStorage values same).shape = field.shape := by
  simp [shape, same]

end Frame

/-- Replace all stored values.  They are rounded to the field's precision, and have to fill it. -/
def overwrite (values : Tensor Float) : Change StoredField Unit := do
  let field ← get
  if same : values.shape = field.storage.shape then
    set (field.withStorage (values.map field.precision.cast) same)
  else throw (.rejected (.shape field.name field.storage.shape values.shape))

/-- Overwrite one stored value, without rounding.  Indices count from the first cell of the halo. -/
def set (field : StoredField) (index : List Nat) (value : Float) : Outcome StoredField :=
  if InBox field.storage.shape index then
    .ok (field.withStorage (field.storage.set index value) (Tensor.shape_set _ _ _))
  else .error (.fault .outOfRange)

/-- Overwrite the stored values that a region selects, without rounding.  Indices count from the first
cell of the halo. -/
def fill (field : StoredField) (region : Region) (value : Float) : Outcome StoredField := do
  let chosen ← windows region.spans field.storage.shape
  return field.withStorage (field.storage.fill chosen value) (Tensor.shape_fill _ _ _)

/-- The margins by which values of the physical region are extended over the absorbing layer and the
halo. -/
def margins (field : StoredField) (layer : Nat) : List Margin :=
  field.halo.map fun margin => ⟨layer + margin.before, layer + margin.after⟩

/-- Fill the whole storage from values of the physical region, continued over a layer of the given width
and the halo.  The values have to fill what the layer leaves of the padded grid, and there has to be
one. -/
def extend (values : Tensor Float) (layer : Nat) (filling : Filling) : Change StoredField Unit := do
  let field ← get
  checkSizes (α := Float) (field.shape.map fun _ => 2 * layer)
  let expected := field.shape.map (· - 2 * layer)
  if values.shape ≠ expected ∨ values.isEmpty then
    throw (.rejected (.shape field.name expected values.shape))
  checkSizes (α := Float) ((field.margins layer).flatMap fun margin => [margin.before, margin.after])
  let padded ← values.pad (field.margins layer) filling
  overwrite padded

/-- A field that is filled from values of the physical region. -/
def extendFrom (field : StoredField) (values : Tensor Float) (layer : Nat) (filling : Filling) :
    Outcome StoredField :=
  (extend values layer filling).result field

end StoredField

end WaveMedium
