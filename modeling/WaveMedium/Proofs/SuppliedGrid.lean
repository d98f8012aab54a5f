/-
Module: WaveMedium.Proofs.SuppliedGrid
Purpose: A supplied grid decides in which precision a medium stores its values, and nothing else about
  them.
Main exports:
  Grid.SameCells, Geometry.onGrid, Geometry.new_withPrecision, Field.RoundedTo,
  AcousticMedium.Assembled.withPrecision, PoroelasticMedium.Assembled.withPrecision, build_withGrid
-/
import WaveMedium.Proofs.Construction

namespace WaveMedium

/-! ### Geometries on another grid -/

/-- Two padded grids have the same points and store values in the same precision.  They may lie elsewhere
and have other lengths. -/
structure Grid.SameCells (a b : Grid Float) : Prop where
  shape : a.shape = b.shape
  interior : a.interior = b.interior
  precision : a.precision = b.precision

theorem Operand.toField_eq_of_sameCells {operand : Operand} {name : String} {halo : List Margin}
    {a b : Grid Float} (same : a.SameCells b) :
    operand.toField name a halo = operand.toField name b halo := by
  rcases a with ⟨_, _, _, _, _, _⟩
  rcases b with ⟨_, _, _, _, _, _⟩
  obtain ⟨rfl, rfl, rfl⟩ := same
  rfl

/-- The same physical grid with values of another precision. -/
def Layout.withPrecision (layout : Layout Float) (precision : Precision) : Layout Float :=
  { layout with precision := precision }

namespace Geometry

/-- The same physical grid inside another padded grid. -/
def onGrid (geometry : Geometry Float) (grid : Grid Float) : Geometry Float :=
  { geometry with grid := grid }

variable {geometry : Geometry Float} {grid : Grid Float}

/-- What a field stores depends only on the points and on the precision of the grid. -/
theorem field_onGrid (same : geometry.grid.SameCells grid) (name : String) (quantity : Quantity)
    (order : Nat) :
    (geometry.onGrid grid).field name quantity order = geometry.field name quantity order := by
  -- What is left after the cells are identified is read by no field: extent, origin and spacing of a grid.
  rcases geometry with ⟨shape, layer, origin, spacing, ⟨_, _, _, _, _, _⟩⟩
  rcases grid with ⟨_, _, _, _, _, _⟩
  obtain ⟨rfl, rfl, rfl⟩ := same
  rfl

theorem absorption_onGrid (same : geometry.grid.SameCells grid) (role : Absorption.Role) :
    (geometry.onGrid grid).absorption role = geometry.absorption role := by
  rcases geometry with ⟨shape, layer, origin, spacing, ⟨_, _, _, _, _, _⟩⟩
  rcases grid with ⟨_, _, _, _, _, _⟩
  obtain ⟨rfl, rfl, rfl⟩ := same
  rfl

/-- A layout that accepts a grid makes one with the same cells itself if it is given the precision of that
grid. -/
theorem new_withPrecision {layout : Layout Float}
    (built : Geometry.new layout (some grid) = .ok geometry) :
    geometry.grid = grid ∧
      Geometry.new (layout.withPrecision grid.precision) none =
        .ok (geometry.onGrid (layout.withPrecision grid.precision).ownGrid) ∧
      geometry.grid.SameCells (layout.withPrecision grid.precision).ownGrid := by
  obtain ⟨agrees, rfl⟩ := of_new_some built
  obtain ⟨shape, _, interior, _⟩ := difference?_eq_none_iff.mp agrees
  have valid := valid_of_new built
  have fit := counted_of_new built
  have again : (layout.withPrecision grid.precision).validate = .ok () := valid
  exact ⟨rfl, new_none_eq again fit, ⟨shape, interior, rfl⟩⟩

end Geometry

/-! ### Rounded values -/

/-- All values of a field have been rounded to a precision. -/
def Field.RoundedTo (precision : Precision) : Field → Prop
  | .uniform field => field.precision = precision ∧ ∃ exact, field.value = precision.cast exact
  | .varying field =>
      field.precision = precision ∧
        ∀ index value, field.storage.get? index = some value → ∃ exact, value = precision.cast exact

theorem Tensor.exists_eq_of_get?_map {f : Float → Float} {t : Tensor Float} {index : List Nat}
    {value : Float} (found : (t.map f).get? index = some value) : ∃ exact, value = f exact := by
  rw [Tensor.get?_map, Option.map_eq_some_iff] at found
  obtain ⟨exact, _, rfl⟩ := found
  exact ⟨exact, rfl⟩

theorem Operand.roundedTo_of_toField {operand : Operand} {name : String} {grid : Grid Float}
    {halo : List Margin} {field : Field} (made : operand.toField name grid halo = .ok field) :
    field.RoundedTo grid.precision := by
  cases operand with
  | uniform value =>
      cases made
      exact ⟨rfl, value, rfl⟩
  | varying values =>
      obtain ⟨blank, zeroed, made⟩ := exists_of_bind_eq_ok made
      obtain ⟨filled, written, made⟩ := exists_of_bind_eq_ok made
      cases made
      obtain ⟨same, rfl⟩ := StoredField.of_overwrite written
      obtain ⟨_, _, precision, _⟩ := StoredField.of_zeros zeroed
      exact ⟨precision, fun index value found => precision ▸ Tensor.exists_eq_of_get?_map found⟩

namespace Geometry.Fits

variable {geometry : Geometry Float} {layout : Layout Float}

theorem roundedTo_of_field (fits : geometry.Fits layout) {name : String} {quantity : Quantity}
    {order : Nat} {field : Field} (made : geometry.field name quantity order = .ok field) :
    field.RoundedTo geometry.grid.precision := by
  cases quantity with
  | uniform value =>
      cases made
      exact ⟨rfl, value, rfl⟩
  | varying values =>
      obtain ⟨blank, zeroed, _, rfl⟩ := fits.of_field_varying made
      have precision := (StoredField.frameOf_ofOrder zeroed).precision
      exact ⟨precision, fun index value found => precision ▸ Tensor.exists_eq_of_get?_map found⟩

theorem roundedTo_of_absorption (fits : geometry.Fits layout)
    (axes : geometry.spacing.length = layout.shape.length) {role : Absorption.Role}
    {field : StoredField} (made : geometry.absorption role = .ok field) :
    (Field.varying field).RoundedTo geometry.grid.precision := by
  obtain ⟨stored, same, frame, cells⟩ := fits.exists_absorption axes role
  rw [same] at made
  cases made
  have lengths : field.storage.shape = geometry.grid.shape := by
    rw [frame.stored, StoredField.evenHalo, Grid.rank, WaveMedium.enlarge_even]
    simp
  refine ⟨frame.precision, fun index value found => ?_⟩
  have inside := Tensor.inBox_of_get? found
  rw [cells index (lengths ▸ inside)] at found
  cases found
  exact ⟨_, rfl⟩

end Geometry.Fits

/-! ### Acoustic media -/

namespace AcousticMedium

/-- The same inputs with a supplied grid. -/
def Inputs.withGrid (inputs : Inputs) (grid : Grid Float) : Inputs :=
  { inputs with grid := some grid }

/-- The same inputs for values of another precision. -/
def Inputs.withPrecision (inputs : Inputs) (precision : Precision) : Inputs :=
  { inputs with layout := inputs.layout.withPrecision precision }

/-- The same medium on another padded grid. -/
def onGrid (medium : AcousticMedium) (grid : Grid Float) : AcousticMedium :=
  { medium with geometry := medium.geometry.onGrid grid }

variable {inputs : Inputs} {grid : Grid Float} {medium : AcousticMedium}

@[simp] theorem Inputs.withPrecision_self (inputs : Inputs) :
    inputs.withPrecision inputs.layout.precision = inputs := rfl

theorem optionalField_onGrid {geometry : Geometry Float} (same : geometry.grid.SameCells grid)
    (name : String) (quantity : Option Quantity) (absent : Float) (order : Nat) :
    optionalField (geometry.onGrid grid) name quantity absent order =
      optionalField geometry name quantity absent order := by
  rw [optionalField_eq, optionalField_eq, Geometry.field_onGrid same]

/-- The medium on a supplied grid is that of the same inputs in the precision of the grid. -/
theorem Assembled.withPrecision (noGrid : inputs.grid = none)
    (assembled : Assembled (inputs.withGrid grid) medium) :
    medium.geometry.grid = grid ∧
      Assembled (inputs.withPrecision grid.precision)
        (medium.onGrid (inputs.layout.withPrecision grid.precision).ownGrid) := by
  obtain ⟨taken, made, same⟩ := Geometry.new_withPrecision assembled.geometry
  refine ⟨taken, ?_⟩
  exact
    { geometry := noGrid ▸ made
      valid := assembled.valid
      slowness := (Geometry.field_onGrid same _ _ _).trans assembled.slowness
      absorption := (Geometry.absorption_onGrid same _).trans assembled.absorption
      epsilon := (optionalField_onGrid same _ _ _ _).trans assembled.epsilon
      delta := (optionalField_onGrid same _ _ _ _).trans assembled.delta
      tilt := (optionalField_onGrid same _ _ _ _).trans assembled.tilt
      azimuth := (optionalField_onGrid same _ _ _ _).trans assembled.azimuth
      velocity := assembled.velocity
      scale := assembled.scale
      spaceOrder := assembled.spaceOrder
      notes := assembled.notes }

/-- All stored values of a medium have been rounded to a precision. -/
theorem Assembled.roundedTo (assembled : Assembled inputs medium) :
    (∀ field ∈ medium.fields, field.RoundedTo medium.geometry.grid.precision) ∧
      (Field.varying medium.absorption).RoundedTo medium.geometry.grid.precision := by
  have fits := assembled.fits
  have optional : ∀ {name quantity absent order field},
      optionalField medium.geometry name quantity absent order = .ok field →
        field.RoundedTo medium.geometry.grid.precision := by
    intro name quantity absent order field made
    rw [optionalField_eq] at made
    exact fits.roundedTo_of_field made
  constructor
  · simp only [fields, List.forall_mem_cons]
    exact ⟨fits.roundedTo_of_field assembled.slowness, optional assembled.epsilon,
      optional assembled.delta, optional assembled.tilt, optional assembled.azimuth, by simp⟩
  · exact fits.roundedTo_of_absorption (Geometry.length_spacing_of_new assembled.geometry)
      assembled.absorption

/-- A medium on a supplied grid is, but for the grid, the medium of the same inputs in the precision of the
grid, and stores all its values in that precision.  In the precision of the layout it is, but for the grid,
the medium that is built without one. -/
structure TakesPrecision (inputs : Inputs) (grid : Grid Float) (own medium : AcousticMedium) : Prop where
  precision : medium.geometry.precision = grid.precision
  twin : ∃ twin, build (inputs.withPrecision grid.precision) = .ok twin ∧
    medium = twin.onGrid grid ∧ medium.criticalStep = twin.criticalStep
  unchanged : grid.precision = inputs.layout.precision →
    medium = own.onGrid grid ∧ medium.criticalStep = own.criticalStep
  fields : ∀ field ∈ medium.fields, field.RoundedTo grid.precision
  absorption : (Field.varying medium.absorption).RoundedTo grid.precision

theorem takesPrecision_of_build {own : AcousticMedium} (noGrid : inputs.grid = none)
    (alone : build inputs = .ok own) (built : build (inputs.withGrid grid) = .ok medium) :
    TakesPrecision inputs grid own medium := by
  have assembled := assembled_of_build built
  obtain ⟨rfl, twin⟩ := assembled.withPrecision noGrid
  obtain ⟨fields, absorption⟩ := assembled.roundedTo
  refine ⟨rfl, ⟨_, twin.build_eq_ok, rfl, rfl⟩, fun same => ?_, fields, absorption⟩
  have again := twin.build_eq_ok
  rw [same, Inputs.withPrecision_self, alone] at again
  cases again
  exact ⟨rfl, rfl⟩

end AcousticMedium

/-! ### Poroelastic media -/

namespace PoroelasticMedium

/-- The same inputs with a supplied grid. -/
def Inputs.withGrid (inputs : Inputs) (grid : Grid Float) : Inputs :=
  { inputs with grid := some grid }

/-- The same inputs for values of another precision. -/
def Inputs.withPrecision (inputs : Inputs) (precision : Precision) : Inputs :=
  { inputs with layout := inputs.layout.withPrecision precision }

/-- The same medium on another padded grid. -/
def onGrid (medium : PoroelasticMedium) (grid : Grid Float) : PoroelasticMedium :=
  { medium with geometry := medium.geometry.onGrid grid }

variable {inputs : Inputs} {grid : Grid Float} {medium : PoroelasticMedium}

@[simp] theorem Inputs.withPrecision_self (inputs : Inputs) :
    inputs.withPrecision inputs.layout.precision = inputs := rfl

/-- The medium on a supplied grid is that of the same inputs in the precision of the grid. -/
theorem Assembled.withPrecision (noGrid : inputs.grid = none)
    (assembled : Assembled (inputs.withGrid grid) medium) :
    medium.geometry.grid = grid ∧
      Assembled (inputs.withPrecision grid.precision)
        (medium.onGrid (inputs.layout.withPrecision grid.precision).ownGrid) := by
  obtain ⟨taken, made, same⟩ := Geometry.new_withPrecision assembled.geometry
  refine ⟨taken, ?_⟩
  exact
    { geometry := noGrid ▸ made
      checked := assembled.checked
      supplied := by
        intro property
        obtain ⟨quantity, found, held⟩ := assembled.supplied property
        exact ⟨quantity, found, (Geometry.field_onGrid same _ _ _).trans held⟩
      derived := by
        obtain ⟨outputs, finished, stored⟩ := assembled.derived
        refine ⟨outputs, finished, fun output => ?_⟩
        obtain ⟨operand, computed, held⟩ := stored output
        exact ⟨operand, computed, (Operand.toField_eq_of_sameCells same).symm.trans held⟩
      absorption := (Geometry.absorption_onGrid same _).trans assembled.absorption
      spaceOrder := assembled.spaceOrder }

theorem Assembled.roundedTo (assembled : Assembled inputs medium) :
    (∀ field ∈ medium.fields, field.RoundedTo medium.geometry.grid.precision) ∧
      (Field.varying medium.absorption).RoundedTo medium.geometry.grid.precision := by
  have fits := assembled.fits
  constructor
  · intro field member
    rcases List.mem_append.mp member with member | member
    · obtain ⟨property, _, rfl⟩ := List.mem_map.mp member
      obtain ⟨quantity, _, made⟩ := assembled.supplied property
      exact fits.roundedTo_of_field made
    · obtain ⟨output, _, rfl⟩ := List.mem_map.mp member
      obtain ⟨outputs, _, stored⟩ := assembled.derived
      obtain ⟨operand, _, made⟩ := stored output
      exact Operand.roundedTo_of_toField made
  · exact fits.roundedTo_of_absorption (Geometry.length_spacing_of_new assembled.geometry)
      assembled.absorption

/-- A medium on a supplied grid is, but for the grid, the medium of the same inputs in the precision of the
grid, and stores all its values in that precision.  In the precision of the layout it is, but for the grid,
the medium that is built without one. -/
structure TakesPrecision (inputs : Inputs) (grid : Grid Float) (own medium : PoroelasticMedium) :
    Prop where
  precision : medium.geometry.precision = grid.precision
  twin : ∃ twin, build (inputs.withPrecision grid.precision) = .ok twin ∧
    medium = twin.onGrid grid ∧ medium.criticalStep = twin.criticalStep
  unchanged : grid.precision = inputs.layout.precision →
    medium = own.onGrid grid ∧ medium.criticalStep = own.criticalStep
  fields : ∀ field ∈ medium.fields, field.RoundedTo grid.precision
  absorption : (Field.varying medium.absorption).RoundedTo grid.precision

theorem takesPrecision_of_build {own : PoroelasticMedium} (noGrid : inputs.grid = none)
    (alone : build inputs = .ok own) (built : build (inputs.withGrid grid) = .ok medium) :
    TakesPrecision inputs grid own medium := by
  have assembled := assembled_of_build built
  obtain ⟨rfl, twin⟩ := assembled.withPrecision noGrid
  obtain ⟨fields, absorption⟩ := assembled.roundedTo
  refine ⟨rfl, ⟨_, twin.build_eq_ok, rfl, rfl⟩, fun same => ?_, fields, absorption⟩
  have again := twin.build_eq_ok
  rw [same, Inputs.withPrecision_self, alone] at again
  cases again
  exact ⟨rfl, rfl⟩

end PoroelasticMedium

/-! ### Both media -/

/-- Inputs that can be built without a grid and also on a supplied one take from the grid nothing but the
precision of their values. -/
theorem build_withGrid :
    (∀ (inputs : AcousticMedium.Inputs) (grid : Grid Float) (own medium : AcousticMedium),
      inputs.grid = none → AcousticMedium.build inputs = .ok own →
      AcousticMedium.build (inputs.withGrid grid) = .ok medium →
      AcousticMedium.TakesPrecision inputs grid own medium) ∧
    ∀ (inputs : PoroelasticMedium.Inputs) (grid : Grid Float) (own medium : PoroelasticMedium),
      inputs.grid = none → PoroelasticMedium.build inputs = .ok own →
      PoroelasticMedium.build (inputs.withGrid grid) = .ok medium →
      PoroelasticMedium.TakesPrecision inputs grid own medium :=
  ⟨fun _ _ _ _ noGrid alone built =>
      AcousticMedium.takesPrecision_of_build noGrid alone built,
    fun _ _ _ _ noGrid alone built =>
      PoroelasticMedium.takesPrecision_of_build noGrid alone built⟩

/-- One point at which waves travel at three kilometres in a second. -/
def singlePoint : AcousticMedium.Inputs where
  layout := { origin := [0.0], spacing := [10.0], shape := [1], layer := 1, precision := .single }
  velocity := .uniform 3.0
  epsilon := none
  delta := none
  tilt := none
  azimuth := none
  spaceOrder := 2
  grid := none

/-- The plane, the sandstone and the point on their padded grids in double precision, and the point alone,
evaluated. -/
theorem double_evaluated :
    (AcousticMedium.build (AcousticMedium.planeInputs.withGrid
        (AcousticMedium.planeInputs.layout.withPrecision .double).ownGrid)).toBool = true ∧
      (PoroelasticMedium.build (PoroelasticMedium.sandstone.withGrid
        (PoroelasticMedium.sandstone.layout.withPrecision .double).ownGrid)).toBool = true ∧
      (AcousticMedium.build (singlePoint.withGrid
          (singlePoint.layout.withPrecision .double).ownGrid)).toOption.map (fun medium =>
            (medium.geometry.precision, medium.squaredSlowness.largest)) =
        some (.double, 1.0 / 9.0) ∧
      (AcousticMedium.build singlePoint).toOption.map (fun medium =>
          (medium.geometry.precision, medium.squaredSlowness.largest)) =
        some (.single, Precision.single.cast (1.0 / 9.0)) := by
  decide +kernel

/-- The plane and the sandstone, stored in single precision, on their padded grids in double precision. -/
theorem build_withGrid_plane_sandstone :
    (∃ own medium,
      AcousticMedium.build AcousticMedium.planeInputs = .ok own ∧
      AcousticMedium.build (AcousticMedium.planeInputs.withGrid
        (AcousticMedium.planeInputs.layout.withPrecision .double).ownGrid) = .ok medium ∧
      AcousticMedium.TakesPrecision AcousticMedium.planeInputs
        (AcousticMedium.planeInputs.layout.withPrecision .double).ownGrid own medium) ∧
    ∃ own medium,
      PoroelasticMedium.build PoroelasticMedium.sandstone = .ok own ∧
      PoroelasticMedium.build (PoroelasticMedium.sandstone.withGrid
        (PoroelasticMedium.sandstone.layout.withPrecision .double).ownGrid) = .ok medium ∧
      PoroelasticMedium.TakesPrecision PoroelasticMedium.sandstone
        (PoroelasticMedium.sandstone.layout.withPrecision .double).ownGrid own medium := by
  constructor
  · obtain ⟨own, alone⟩ := AcousticMedium.exists_build_planeInputs
    obtain ⟨medium, built⟩ := exists_eq_ok_of_toBool double_evaluated.1
    exact ⟨own, medium, alone, built, build_withGrid.1 _ _ _ _ rfl alone built⟩
  · obtain ⟨own, alone, _⟩ := PoroelasticMedium.exists_build_sandstone
    obtain ⟨medium, built⟩ := exists_eq_ok_of_toBool double_evaluated.2.1
    exact ⟨own, medium, alone, built, build_withGrid.2 _ _ _ _ rfl alone built⟩

/-- A ninth is stored differently in double precision. -/
theorem not_same_values_singlePoint :
    ∃ own medium, AcousticMedium.build singlePoint = .ok own ∧
      AcousticMedium.build (singlePoint.withGrid
        (singlePoint.layout.withPrecision .double).ownGrid) = .ok medium ∧
      medium.geometry.precision ≠ own.geometry.precision ∧
      medium.squaredSlowness.largest ≠ own.squaredSlowness.largest := by
  have apart : (1.0 / 9.0 : Float) ≠ Precision.single.cast (1.0 / 9.0) := by decide
  obtain ⟨own, alone, low⟩ := exists_of_map_toOption double_evaluated.2.2.2
  obtain ⟨medium, built, high⟩ := exists_of_map_toOption double_evaluated.2.2.1
  obtain ⟨single, rounded⟩ := Prod.mk.inj low
  obtain ⟨double, exact⟩ := Prod.mk.inj high
  refine ⟨own, medium, alone, built, ?_, ?_⟩
  · rw [single, double]
    decide
  · rw [rounded, exact]
    exact apart

end WaveMedium
