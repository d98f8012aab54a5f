/-
Module: WaveMedium.Proofs.Construction
Purpose: When a medium can be built on its padded grid.
Main exports:
  Quantity.Fills, Geometry.Fits.exists_field_iff,
  AcousticMedium.exists_build_iff, PoroelasticMedium.exists_build_iff
-/
import WaveMedium.Proofs.Absorption.Field
import WaveMedium.Proofs.Acoustic.Fields
import WaveMedium.Proofs.PaddedGrid
import WaveMedium.Proofs.Poroelastic.Fields

namespace WaveMedium

/-! ### Fields -/

/-- Values per point are as many as the physical region has points. -/
def Quantity.Fills (shape : List Nat) : Quantity → Prop
  | .uniform _ => True
  | .varying values => values.shape = shape

@[simp] theorem Quantity.fills_map {shape : List Nat} {quantity : Quantity} (f : Float → Float) :
    (quantity.map f).Fills shape ↔ quantity.Fills shape := by
  cases quantity <;> exact Iff.rfl

/-- The lengths of the padded grid can be counted where those of the storage can. -/
theorem Layout.sizesFit_padded {layout : Layout Float} {order : Nat}
    (fit : SizesFit (layout.storageShape order)) :
    SizesFit (layout.shape.map (· + 2 * layout.layer)) := by
  intro n member
  obtain ⟨k, axis, rfl⟩ := List.mem_map.mp member
  have whole : k + 2 * layout.layer + 2 * order < sizeLimit := fit _ (List.mem_map_of_mem axis)
  omega

namespace Geometry

variable {geometry : Geometry Float} {layout : Layout Float} {name : String} {order : Nat}

theorem Fits.enlarge_even (fits : geometry.Fits layout) (order : Nat) :
    enlarge geometry.grid.shape (List.replicate geometry.rank (Margin.even order)) =
      layout.storageShape order := by
  rw [← fits.enlarge_eq, StoredField.evenHalo, Grid.rank, rank, fits.padded, fits.shape,
    List.length_map]

/-- A quantity makes a field exactly if it fills the physical region. -/
theorem Fits.exists_field_iff (fits : geometry.Fits layout)
    (fit : SizesFit (layout.storageShape order)) {quantity : Quantity} :
    (∃ field, geometry.field name quantity order = .ok field) ↔ quantity.Fills layout.shape := by
  cases quantity with
  | uniform value => exact ⟨fun _ => trivial, fun _ => ⟨_, rfl⟩⟩
  | varying values =>
      constructor
      · rintro ⟨field, made⟩
        obtain ⟨_, _, fills, _⟩ := fits.of_field_varying made
        exact fills.trans fits.shape
      · intro fills
        obtain ⟨blank, zeroed⟩ :=
          StoredField.exists_ofOrder name ((fits.enlarge_eq order).symm ▸ fit)
        exact ⟨_, fits.field_varying zeroed (fills.trans fits.shape.symm)⟩

end Geometry

/-! ### Acoustic media -/

namespace AcousticMedium

/-- The quantities of which a medium makes fields fill the physical region.  The azimuth counts only in
three dimensions. -/
structure Inputs.Fill (inputs : Inputs) : Prop where
  velocity : inputs.velocity.Fills inputs.layout.shape
  epsilon : ∀ quantity, inputs.epsilon = some quantity → quantity.Fills inputs.layout.shape
  delta : ∀ quantity, inputs.delta = some quantity → quantity.Fills inputs.layout.shape
  tilt : ∀ quantity, inputs.tilt = some quantity → quantity.Fills inputs.layout.shape
  azimuth : inputs.layout.shape.length = 3 →
    ∀ quantity, inputs.azimuth = some quantity → quantity.Fills inputs.layout.shape

/-- An absent quantity is made a field as its value is. -/
theorem optionalField_eq (geometry : Geometry Float) (name : String) (quantity : Option Quantity)
    (absent : Float) (order : Nat) :
    optionalField geometry name quantity absent order =
      geometry.field name (quantity.getD (.uniform absent)) order := by
  cases quantity <;> rfl

theorem exists_optionalField_iff {geometry : Geometry Float} {layout : Layout Float} {name : String}
    {order : Nat} {quantity : Option Quantity} {absent : Float} (fits : geometry.Fits layout)
    (fit : SizesFit (layout.storageShape order)) :
    (∃ field, optionalField geometry name quantity absent order = .ok field) ↔
      ∀ supplied, quantity = some supplied → supplied.Fills layout.shape := by
  rw [optionalField_eq, fits.exists_field_iff fit]
  cases quantity with
  | none => simp [Quantity.Fills]
  | some supplied => simp

theorem forall_map_fills {shape : List Nat} {quantity : Option Quantity} (rule : Float → Float) :
    (∀ supplied, quantity.map (·.map rule) = some supplied → supplied.Fills shape) ↔
      ∀ supplied, quantity = some supplied → supplied.Fills shape := by
  cases quantity <;> simp

theorem forall_usedAzimuth_fills {inputs : Inputs} {rank : Nat} {shape : List Nat} :
    (∀ supplied, (inputs.usedAzimuth rank).1 = some supplied → supplied.Fills shape) ↔
      (rank = 3 → ∀ supplied, inputs.azimuth = some supplied → supplied.Fills shape) := by
  rw [usedAzimuth_fst]
  by_cases solid : rank = 3 <;> simp [solid]

/-- On a padded grid a medium can be built exactly if its velocity is one and what was supplied fills the
physical region. -/
theorem exists_build_iff {inputs : Inputs} {geometry : Geometry Float}
    (grid : Geometry.new inputs.layout inputs.grid = .ok geometry)
    (fit : SizesFit (inputs.layout.storageShape inputs.spaceOrder)) :
    (∃ medium, build inputs = .ok medium) ↔
      checkVelocity inputs.velocity = .ok () ∧ inputs.Fill := by
  have fits := Geometry.fits_of_new grid
  have rank : geometry.rank = inputs.layout.shape.length := congrArg List.length fits.shape
  constructor
  · rintro ⟨medium, built⟩
    have assembled := assembled_of_build built
    have same := assembled.geometry
    rw [grid] at same
    cases same
    have azimuth := (exists_optionalField_iff fits fit).mp ⟨_, assembled.azimuth⟩
    rw [forall_usedAzimuth_fills, rank] at azimuth
    exact
      ⟨assembled.valid,
        { velocity :=
            (Quantity.fills_map _).mp ((fits.exists_field_iff fit).mp ⟨_, assembled.slowness⟩)
          epsilon :=
            (forall_map_fills _).mp ((exists_optionalField_iff fits fit).mp ⟨_, assembled.epsilon⟩)
          delta :=
            (forall_map_fills _).mp ((exists_optionalField_iff fits fit).mp ⟨_, assembled.delta⟩)
          tilt := (exists_optionalField_iff fits fit).mp ⟨_, assembled.tilt⟩
          azimuth := azimuth }⟩
  · rintro ⟨valid, fill⟩
    have axes := Geometry.length_spacing_of_new grid
    rw [fits.spacing] at axes
    obtain ⟨slowness, slow⟩ :=
      (fits.exists_field_iff fit).mpr ((Quantity.fills_map slownessSquared).mpr fill.velocity)
    obtain ⟨absorption, layer, _⟩ := fits.exists_absorption (fits.spacing ▸ axes) .damping
    obtain ⟨epsilon, first⟩ :=
      (exists_optionalField_iff fits fit).mpr ((forall_map_fills epsilonFactor).mpr fill.epsilon)
    obtain ⟨delta, second⟩ :=
      (exists_optionalField_iff fits fit).mpr ((forall_map_fills deltaFactor).mpr fill.delta)
    obtain ⟨tilt, third⟩ := (exists_optionalField_iff fits fit).mpr fill.tilt
    have used := fill.azimuth
    rw [← rank, ← forall_usedAzimuth_fills] at used
    obtain ⟨azimuth, fourth⟩ := (exists_optionalField_iff fits fit).mpr used
    have assembled : Assembled inputs
        { geometry := geometry
          absorption := absorption
          velocity := inputs.velocity
          squaredSlowness := slowness
          epsilon := epsilon
          delta := delta
          tilt := tilt
          azimuth := azimuth
          scale := scaleOf epsilon
          spaceOrder := inputs.spaceOrder
          notes := (inputs.usedAzimuth geometry.rank).2 } :=
      { geometry := grid
        valid := valid
        slowness := slow
        absorption := layer
        epsilon := first
        delta := second
        tilt := third
        azimuth := fourth
        velocity := rfl
        scale := rfl
        spaceOrder := rfl
        notes := rfl }
    exact ⟨_, assembled.build_eq_ok⟩

/-- Without a supplied grid the layout decides whether there is a padded grid. -/
theorem exists_build_iff_of_no_grid {inputs : Inputs} (noGrid : inputs.grid = none)
    (fit : SizesFit (inputs.layout.storageShape inputs.spaceOrder)) :
    (∃ medium, build inputs = .ok medium) ↔
      inputs.layout.validate = .ok () ∧ checkVelocity inputs.velocity = .ok () ∧ inputs.Fill := by
  constructor
  · rintro ⟨medium, built⟩
    have grid := (assembled_of_build built).geometry
    exact ⟨Geometry.valid_of_new grid, (exists_build_iff grid fit).mp ⟨medium, built⟩⟩
  · rintro ⟨valid, rest⟩
    have grid := Geometry.new_none_eq valid (Layout.sizesFit_padded fit)
    exact (exists_build_iff (noGrid ▸ grid) fit).mpr rest

end AcousticMedium

/-! ### Poroelastic media -/

theorem RockTable.exists_ofFnM {ε α : Type} {entry : RockProperty → Except ε α}
    (each : ∀ property, ∃ value, entry property = .ok value) :
    ∃ table, RockTable.ofFnM entry = .ok table := by
  choose value made using each
  refine ⟨RockTable.ofFn value, ofFnM_eq_ok fun property => ?_⟩
  rw [made, get_ofFn]

theorem DerivedTable.exists_ofFnM {ε α : Type} {entry : DerivedProperty → Except ε α}
    (each : ∀ output, ∃ value, entry output = .ok value) :
    ∃ table, DerivedTable.ofFnM entry = .ok table := by
  choose value made using each
  refine ⟨DerivedTable.ofFn value, ofFnM_eq_ok fun output => ?_⟩
  rw [made, get_ofFn]

/-- An operand of the shape of the storage makes a field. -/
theorem Operand.Agrees.exists_toField {operand : Operand} {shape : List Nat} {varies : Prop}
    {value : List Nat → Float} {grid : Grid Float} {halo : List Margin}
    (agrees : operand.Agrees shape varies value) (name : String)
    (whole : enlarge grid.shape halo = shape) (fit : SizesFit shape) :
    ∃ field, operand.toField name grid halo = .ok field := by
  cases operand with
  | uniform held => exact ⟨_, rfl⟩
  | varying held =>
      obtain ⟨blank, zeroed⟩ : ∃ blank, StoredField.zeros name grid halo = .ok blank :=
        ⟨_, dif_pos (whole.symm ▸ fit)⟩
      obtain ⟨_, _, _, stored⟩ := StoredField.of_zeros zeroed
      have same : held.shape = blank.storage.shape := (agrees.2.1.trans whole.symm).trans stored.symm
      have written := Change.result_eq_ok (StoredField.perform_overwrite same)
      simp only [Operand.toField, zeroed, written, bind_ok]
      exact ⟨_, rfl⟩

namespace PoroelasticMedium

/-- The fixed order of the derivation can run where every property was supplied. -/
theorem checkPipeline_pipeline {isSupplied : RockProperty → Bool}
    (every : ∀ property, isSupplied property = true) : checkPipeline pipeline isSupplied = .ok () := by
  have same : isSupplied = fun _ => true := funext every
  rw [same]
  rfl

/-- From fields of one geometry all derived fields can be computed and stored. -/
theorem exists_derived {geometry : Geometry Float} {layout : Layout Float} {order : Nat}
    {supplied : RockTable Field} (fits : geometry.Fits layout)
    (fit : SizesFit (layout.storageShape order))
    (made : ∀ property, ∃ quantity,
      geometry.field property.symbol quantity order = .ok (supplied.get property)) :
    ∃ outputs derived,
      runPipeline (supplied.map fun field => some field.operand) Derived.none pipeline =
          .ok outputs ∧
        storeDerived geometry (List.replicate geometry.rank (Margin.even order)) outputs =
          .ok derived := by
  obtain ⟨outputs, finished, computed⟩ :=
    exists_outputs fits made (checkPipeline_pipeline fun _ => rfl)
  obtain ⟨derived, stored⟩ : ∃ derived, storeDerived geometry
      (List.replicate geometry.rank (Margin.even order)) outputs = .ok derived := by
    apply DerivedTable.exists_ofFnM
    intro output
    obtain ⟨operand, found, holds⟩ := computed output
    rw [found]
    exact holds.exists_toField output.symbol (fits.enlarge_even order) fit
  exact ⟨outputs, derived, finished, stored⟩

/-- On a padded grid a medium can be built exactly if every property was supplied and fills the physical
region. -/
theorem exists_build_iff {inputs : Inputs} {geometry : Geometry Float}
    (grid : Geometry.new inputs.layout inputs.grid = .ok geometry)
    (fit : SizesFit (inputs.layout.storageShape inputs.spaceOrder)) :
    (∃ medium, build inputs = .ok medium) ↔
      ∀ property, ∃ quantity, inputs.values.get property = some quantity ∧
        quantity.Fills inputs.layout.shape := by
  have fits := Geometry.fits_of_new grid
  constructor
  · rintro ⟨medium, built⟩ property
    have assembled := assembled_of_build built
    obtain ⟨quantity, found, made⟩ := assembled.supplied property
    exact ⟨quantity, found, (assembled.fits.exists_field_iff fit).mp ⟨_, made⟩⟩
  · intro every
    have present : ∀ property, (inputs.values.get property).isSome = true := by
      intro property
      obtain ⟨quantity, found, _⟩ := every property
      rw [found]
      rfl
    obtain ⟨values, completed⟩ : ∃ values, completeInputs inputs.values = .ok values := by
      apply RockTable.exists_ofFnM
      intro property
      obtain ⟨quantity, found, _⟩ := every property
      exact ⟨quantity, by rw [found]⟩
    obtain ⟨supplied, made⟩ : ∃ supplied, RockTable.ofFnM (fun property =>
        geometry.field property.symbol (values.get property) inputs.spaceOrder) = .ok supplied := by
      apply RockTable.exists_ofFnM
      intro property
      obtain ⟨quantity, found, fills⟩ := every property
      have same := of_completeInputs completed property
      rw [found] at same
      cases same
      exact (fits.exists_field_iff fit).mpr fills
    obtain ⟨outputs, derived, finished, stored⟩ := exists_derived fits fit
      fun property => ⟨_, RockTable.get_of_ofFnM made property⟩
    have axes := Geometry.length_spacing_of_new grid
    obtain ⟨absorption, layer, _⟩ := fits.exists_absorption axes .mask
    simp only [build, grid, checkPipeline_pipeline present, completed, made, finished, stored, layer,
      bind_ok]
    exact ⟨_, rfl⟩

/-- Without a supplied grid the layout decides whether there is a padded grid. -/
theorem exists_build_iff_of_no_grid {inputs : Inputs} (noGrid : inputs.grid = none)
    (fit : SizesFit (inputs.layout.storageShape inputs.spaceOrder)) :
    (∃ medium, build inputs = .ok medium) ↔
      inputs.layout.validate = .ok () ∧
        ∀ property, ∃ quantity, inputs.values.get property = some quantity ∧
          quantity.Fills inputs.layout.shape := by
  constructor
  · rintro ⟨medium, built⟩
    have grid := (assembled_of_build built).geometry
    exact ⟨Geometry.valid_of_new grid, (exists_build_iff grid fit).mp ⟨medium, built⟩⟩
  · rintro ⟨valid, every⟩
    have grid := Geometry.new_none_eq valid (Layout.sizesFit_padded fit)
    exact (exists_build_iff (noGrid ▸ grid) fit).mpr every

end PoroelasticMedium

end WaveMedium
