/-
Module: WaveMedium.Proofs.Representable
Purpose: A medium stores only numbers of the precision of its grid.
Main exports:
  Field.Representable, Field.RoundedTo.representable, stored_values_representable
-/
import WaveMedium.Proofs.Acoustic.CriticalStep
import WaveMedium.Proofs.Number.Cast
import WaveMedium.Proofs.SuppliedGrid

namespace WaveMedium

open Number

/-- Every value of a field, in the layer and in the halo too, is a number of a precision: storing it again
would not change it. -/
def Field.Representable (precision : Precision) : Field → Prop
  | .uniform field => precision.cast field.value = field.value
  | .varying field =>
      ∀ index value, field.storage.get? index = some value → precision.cast value = value

theorem Field.RoundedTo.representable {precision : Precision} {field : Field}
    (rounded : field.RoundedTo precision) : field.Representable precision := by
  cases field with
  | uniform field =>
      obtain ⟨_, exact, stored⟩ := rounded
      rw [Representable, stored, cast_idempotent]
  | varying field =>
      intro index value found
      obtain ⟨exact, rfl⟩ := rounded.2 index value found
      exact cast_idempotent precision exact

/-- All fields of a medium and its absorbing layer hold numbers of the precision of its grid. -/
structure StoresRepresentable (grid : Grid Float) (fields : List Field) (absorption : StoredField) :
    Prop where
  fields : ∀ field ∈ fields, field.Representable grid.precision
  absorption : (Field.varying absorption).Representable grid.precision

theorem StoresRepresentable.of_roundedTo {grid : Grid Float} {fields : List Field}
    {absorption : StoredField}
    (rounded : (∀ field ∈ fields, field.RoundedTo grid.precision) ∧
      (Field.varying absorption).RoundedTo grid.precision) :
    StoresRepresentable grid fields absorption where
  fields := fun field member => (rounded.1 field member).representable
  absorption := rounded.2.representable

/-- Whatever velocities an acoustic medium was given after it was built, and on whatever grid it or a
poroelastic medium was built, all values that it stores are numbers of the precision of its grid. -/
theorem stored_values_representable :
    (∀ (inputs : AcousticMedium.Inputs) (medium final : AcousticMedium) (velocities : List Quantity),
      AcousticMedium.build inputs = .ok medium →
      (AcousticMedium.assignAll velocities medium).2 = final →
      StoresRepresentable final.geometry.grid final.fields final.absorption) ∧
    ∀ (inputs : PoroelasticMedium.Inputs) (medium : PoroelasticMedium),
      PoroelasticMedium.build inputs = .ok medium →
      StoresRepresentable medium.geometry.grid medium.fields medium.absorption := by
  constructor
  · rintro inputs medium _ velocities built rfl
    obtain ⟨_, assembled⟩ := (AcousticMedium.assembled_of_build built).exists_assignAll velocities
    exact .of_roundedTo assembled.roundedTo
  · intro inputs medium built
    exact .of_roundedTo (PoroelasticMedium.assembled_of_build built).roundedTo

/-- The line after its velocities, in single precision, and the sandstone on a grid in double precision. -/
theorem stored_values_representable_line_sandstone :
    (∃ medium final, AcousticMedium.build AcousticMedium.lineInputs = .ok medium ∧
      (AcousticMedium.assignAll AcousticMedium.lineVelocities medium).2 = final ∧
      StoresRepresentable final.geometry.grid final.fields final.absorption) ∧
    ∃ medium, PoroelasticMedium.build (PoroelasticMedium.sandstone.withGrid
        (PoroelasticMedium.sandstone.layout.withPrecision .double).ownGrid) = .ok medium ∧
      StoresRepresentable medium.geometry.grid medium.fields medium.absorption := by
  constructor
  · obtain ⟨medium, built, _⟩ := exists_of_map_toOption AcousticMedium.steps_evaluated.1
    exact ⟨medium, _, built, rfl, stored_values_representable.1 _ _ _ _ built rfl⟩
  · obtain ⟨medium, built⟩ := exists_eq_ok_of_toBool double_evaluated.2.1
    exact ⟨medium, built, stored_values_representable.2 _ _ built⟩

end WaveMedium
