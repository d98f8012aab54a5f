/-
Module: WaveMedium.Proofs.Poroelastic.Covering
Purpose: The derived fields of a poroelastic medium repeat their formulas at the points of the physical
  region over the layer and the halo.
Main exports:
  PoroelasticMedium.Inputs.rockOn, PoroelasticMedium.Assembled.covers_derived,
  PoroelasticMedium.fastest_sandstone
-/
import WaveMedium.Proofs.Covering
import WaveMedium.Proofs.Poroelastic.Fields

namespace WaveMedium.PoroelasticMedium

open Number

/-- The rock at a point of the physical region, as it is stored. -/
def Inputs.rockOn (inputs : Inputs) (precision : Precision) (point : List Nat) : RockTable Float :=
  inputs.values.map fun quantity? =>
    quantity?.elim 0.0 fun quantity => precision.cast (quantity.valueAt point)

/-- What the supplied fields store in a cell is the rock at the nearest point. -/
theorem Assembled.rockAt_eq {inputs : Inputs} {medium : PoroelasticMedium}
    (assembled : Assembled inputs medium) {index : List Nat}
    (inside : InBox (inputs.layout.storageShape inputs.spaceOrder) index) :
    medium.rockAt index = inputs.rockOn medium.geometry.grid.precision
      (inputs.layout.nearestPoint inputs.spaceOrder index) := by
  unfold rockAt Inputs.rockOn RockTable.map
  congr 1
  funext property
  obtain ⟨quantity, found, made⟩ := assembled.supplied property
  have cell := (assembled.fits.covers_field made).cells index inside
  dsimp only
  rw [found, cell]
  rfl

/-- A derived field repeats its formula at the rock of the physical region, rounded. -/
theorem Assembled.covers_derived {inputs : Inputs} {medium : PoroelasticMedium}
    (assembled : Assembled inputs medium) (output : DerivedProperty) :
    (medium.derived.get output).Covers inputs.layout inputs.spaceOrder
      (output.Varies fun property => (medium.supplied.get property).representation = .varying)
      fun point => medium.geometry.grid.precision.cast
        ((inputs.rockOn medium.geometry.grid.precision point).value output) := by
  obtain ⟨operand, holds, made⟩ := assembled.exists_output output
  obtain ⟨representation, cells, frame⟩ := holds.toField made
  refine ⟨representation, fun index inside => ?_, fun stored here => ?_⟩
  · rw [cells index inside, assembled.rockAt_eq inside]
  · have rank : medium.geometry.rank = inputs.layout.shape.length :=
      congrArg List.length assembled.fits.shape
    rw [← rank]
    exact frame stored here

/-- The fastest wave in the sandstone is defined in every cell and does not stand still. -/
theorem fastest_sandstone :
    ∃ medium field, build sandstone = .ok medium ∧
      medium.derived.compressionalVelocity = .varying field ∧
      (field.storage.all fun value => !value.isNaN) = true ∧ ¬ IsZero field.largest := by
  obtain ⟨medium, built, seen⟩ : ∃ medium, build sandstone = .ok medium ∧
      (medium.derived.compressionalVelocity.stored?.map fun field =>
        (field.storage.all fun value => !value.isNaN, decide (IsZero field.largest))) =
          some (true, false) :=
    exists_of_map_toOption (by decide +kernel)
  obtain ⟨field, held, facts⟩ := Option.map_eq_some_iff.mp seen
  obtain ⟨number, moves⟩ := Prod.mk.inj facts
  refine ⟨medium, field, built, ?_, number, of_decide_eq_false moves⟩
  cases stored : medium.derived.compressionalVelocity with
  | uniform field => simp [stored, Field.stored?] at held
  | varying field => simpa [stored, Field.stored?] using held

end WaveMedium.PoroelasticMedium
