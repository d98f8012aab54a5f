/-
Module: WaveMedium.Field.Basic
Purpose: Fields of a medium, with one value or one per cell.
Main exports:
  UniformField, Field, Field.valueAt?, Field.operand, Operand, Operand.zipWith, Operand.toField
-/
import WaveMedium.Field.Quantity
import WaveMedium.Field.Stored

namespace WaveMedium

/-! ### Uniform fields -/

/-- A field with one value, which has been rounded to the precision of the medium. -/
structure UniformField where
  name : String
  precision : Precision
  value : Float
deriving DecidableEq

/-- A uniform field. -/
def UniformField.ofValue (name : String) (precision : Precision) (value : Float) : UniformField :=
  ⟨name, precision, precision.cast value⟩

/-- Change the value. -/
def UniformField.set (field : UniformField) (value : Float) : UniformField :=
  { field with value := field.precision.cast value }

/-! ### Fields -/

/-- A field with one value or with stored values. -/
inductive Field where
  | uniform (field : UniformField)
  | varying (field : StoredField)

namespace Field

/-- The field's name. -/
def name : Field → String
  | .uniform field => field.name
  | .varying field => field.name

/-- Whether the field has one value or one per cell. -/
def representation : Field → Representation
  | .uniform _ => .uniform
  | .varying _ => .varying

/-- Whether the field has one value. -/
def isUniform : Field → Bool
  | .uniform _ => true
  | .varying _ => false

/-- The stored values of a field that has them. -/
def stored? : Field → Option StoredField
  | .uniform _ => none
  | .varying field => some field

/-- The largest value. -/
def largest : Field → Float
  | .uniform field => field.value
  | .varying field => field.largest

/-- The smallest value. -/
def smallest : Field → Float
  | .uniform field => field.value
  | .varying field => field.smallest

/-- The value at a point of the padded grid.  A uniform field has its value everywhere. -/
def valueAt? (field : Field) (index : List Nat) : Option Float :=
  match field with
  | .uniform field => some field.value
  | .varying field => field.valueAt? index

end Field

/-! ### Arithmetic on whole fields -/

/-- The values of a field while others are derived from it.  They are not rounded between the steps of
a derivation. -/
inductive Operand where
  | uniform (value : Float)
  | varying (values : Tensor Float)
deriving DecidableEq

/-- The stored values of a field, halo included. -/
def Field.operand : Field → Operand
  | .uniform field => .uniform field.value
  | .varying field => .varying field.storage

namespace Operand

/-- Combine two operands cell by cell.  One value stands for that value in every cell, and values per
cell have to have the same shape. -/
def zipWith (f : Float → Float → Float) : Operand → Operand → Outcome Operand
  | .uniform a, .uniform b => .ok (.uniform (f a b))
  | .varying as, .uniform b => .ok (.varying (as.map (f · b)))
  | .uniform a, .varying bs => .ok (.varying (bs.map (f a)))
  | .varying as, .varying bs =>
      match Tensor.zipWith? f as bs with
      | some values => .ok (.varying values)
      | none => .error (.rejected (.shape "operand" as.shape bs.shape))

/-- The value in a cell of the storage. -/
def cell? (operand : Operand) (index : List Nat) : Option Float :=
  match operand with
  | .uniform value => some value
  | .varying values => values.get? index

/-- Round the values and make them a field of the grid. -/
def toField (operand : Operand) (name : String) (grid : Grid Float) (halo : List Margin) :
    Outcome Field :=
  match operand with
  | .uniform value => .ok (.uniform (UniformField.ofValue name grid.precision value))
  | .varying values => do
      let field ← StoredField.zeros name grid halo
      let filled ← (StoredField.overwrite values).result field
      return .varying filled

end Operand

end WaveMedium
