/-
Module: WaveMedium.Proofs.Poroelastic.Fields
Purpose: What the derived fields of a poroelastic medium hold in every cell of their storage, and which
  of them vary.
Main exports:
  PoroelasticMedium.Assembled, PoroelasticMedium.assembled_of_build, Operand.Agrees.toField,
  PoroelasticMedium.exists_outputs, PoroelasticMedium.derived_of_build
-/
import Mathlib.Tactic.Choose
import WaveMedium.Poroelastic.Medium
import WaveMedium.Proofs.Geometry
import WaveMedium.Proofs.Poroelastic.Derivation

namespace WaveMedium

/-! ### Tables and fields -/

theorem RockTable.get_of_ofFnM {ε α : Type} {entry : RockProperty → Except ε α}
    {table : RockTable α} (made : RockTable.ofFnM entry = .ok table) (property : RockProperty) :
    entry property = .ok (table.get property) := by
  unfold RockTable.ofFnM at made
  obtain ⟨_, solidDensity, made⟩ := exists_of_bind_eq_ok made
  obtain ⟨_, fluidDensity, made⟩ := exists_of_bind_eq_ok made
  obtain ⟨_, drainedBulkModulus, made⟩ := exists_of_bind_eq_ok made
  obtain ⟨_, solidBulkModulus, made⟩ := exists_of_bind_eq_ok made
  obtain ⟨_, fluidBulkModulus, made⟩ := exists_of_bind_eq_ok made
  obtain ⟨_, fluidViscosity, made⟩ := exists_of_bind_eq_ok made
  obtain ⟨_, porosity, made⟩ := exists_of_bind_eq_ok made
  obtain ⟨_, permeability, made⟩ := exists_of_bind_eq_ok made
  obtain ⟨_, shearModulus, made⟩ := exists_of_bind_eq_ok made
  obtain ⟨_, tortuosity, made⟩ := exists_of_bind_eq_ok made
  cases made
  cases property <;> assumption

theorem DerivedTable.get_of_ofFnM {ε α : Type} {entry : DerivedProperty → Except ε α}
    {table : DerivedTable α} (made : DerivedTable.ofFnM entry = .ok table)
    (output : DerivedProperty) : entry output = .ok (table.get output) := by
  unfold DerivedTable.ofFnM at made
  obtain ⟨_, biotCoefficient, made⟩ := exists_of_bind_eq_ok made
  obtain ⟨_, biotModulus, made⟩ := exists_of_bind_eq_ok made
  obtain ⟨_, undrainedBulkModulus, made⟩ := exists_of_bind_eq_ok made
  obtain ⟨_, bulkDensity, made⟩ := exists_of_bind_eq_ok made
  obtain ⟨_, compressionalVelocity, made⟩ := exists_of_bind_eq_ok made
  obtain ⟨_, shearVelocity, made⟩ := exists_of_bind_eq_ok made
  obtain ⟨_, undrainedLame, made⟩ := exists_of_bind_eq_ok made
  cases made
  cases output <;> assumption

/-- A table is made where each of its entries is. -/
theorem RockTable.ofFnM_eq_ok {ε α : Type} {entry : RockProperty → Except ε α} {table : RockTable α}
    (each : ∀ property, entry property = .ok (table.get property)) :
    RockTable.ofFnM entry = .ok table := by
  simp only [ofFnM, each, bind_ok]
  rfl

theorem DerivedTable.ofFnM_eq_ok {ε α : Type} {entry : DerivedProperty → Except ε α}
    {table : DerivedTable α} (each : ∀ output, entry output = .ok (table.get output)) :
    DerivedTable.ofFnM entry = .ok table := by
  simp only [ofFnM, each, bind_ok]
  rfl

/-- The stored values of a field whose storage is the box agree with themselves. -/
theorem Field.agrees_operand {field : Field} {shape : List Nat}
    (stored : ∀ held, field = .varying held → held.storage.shape = shape) :
    field.operand.Agrees shape (field.representation = .varying)
      fun index => (field.operand.cell? index).getD 0.0 := by
  apply (Operand.agrees_self ?_).congr
  · cases field <;> simp [Field.representation, Field.operand]
  · cases field with
    | uniform held => simp [Field.operand]
    | varying held => simpa [Field.operand] using stored held rfl

/-- A field that is made from an operand holds its values rounded, with the halo that was asked for. -/
theorem Operand.Agrees.toField {operand : Operand} {shape : List Nat} {varies : Prop}
    {value : List Nat → Float} {name : String} {grid : Grid Float} {halo : List Margin}
    {field : Field} (agrees : operand.Agrees shape varies value)
    (made : operand.toField name grid halo = .ok field) :
    (field.representation = .varying ↔ varies) ∧
      (∀ index, InBox shape index →
        field.operand.cell? index = some (grid.precision.cast (value index))) ∧
      ∀ held, field = .varying held → held.storage.shape = shape ∧ held.halo = halo := by
  cases operand with
  | uniform held =>
      cases made
      refine ⟨by simp [Field.representation, agrees.1], ?_, ?_⟩
      · intro index inside
        rw [agrees.2 index inside]
        rfl
      · intro other impossible
        cases impossible
  | varying held =>
      obtain ⟨varying, lengths, cells⟩ := agrees
      obtain ⟨blank, zeroed, made⟩ := exists_of_bind_eq_ok made
      obtain ⟨filled, written, made⟩ := exists_of_bind_eq_ok made
      cases made
      obtain ⟨same, rfl⟩ := StoredField.of_overwrite written
      obtain ⟨_, halos, precision, _⟩ := StoredField.of_zeros zeroed
      refine ⟨by simp [Field.representation, varying], ?_, ?_⟩
      · intro index inside
        change (held.map blank.precision.cast).get? index = _
        rw [Tensor.get?_map, cells index inside, precision]
        rfl
      · intro other here
        cases here
        exact ⟨lengths, halos⟩

namespace PoroelasticMedium

/-! ### The parts of a medium -/

/-- A medium is put together from the parts that its inputs ask for. -/
structure Assembled (inputs : Inputs) (medium : PoroelasticMedium) : Prop where
  geometry : Geometry.new inputs.layout inputs.grid = .ok medium.geometry
  checked : checkPipeline pipeline (fun property => (inputs.values.get property).isSome) = .ok ()
  supplied : ∀ property, ∃ quantity, inputs.values.get property = some quantity ∧
    medium.geometry.field property.symbol quantity inputs.spaceOrder =
      .ok (medium.supplied.get property)
  derived : ∃ outputs,
    runPipeline (medium.supplied.map fun field => some field.operand) Derived.none pipeline =
        .ok outputs ∧
      ∀ output, ∃ operand, outputs.get output = some operand ∧
        operand.toField output.symbol medium.geometry.grid
            (List.replicate medium.geometry.rank (Margin.even inputs.spaceOrder)) =
          .ok (medium.derived.get output)
  absorption : medium.geometry.absorption .mask = .ok medium.absorption
  spaceOrder : medium.spaceOrder = inputs.spaceOrder

theorem of_completeInputs {values : RockTable (Option Quantity)} {complete : RockTable Quantity}
    (completed : completeInputs values = .ok complete) (property : RockProperty) :
    values.get property = some (complete.get property) := by
  have entry := RockTable.get_of_ofFnM completed property
  split at entry
  · rename_i found
    cases entry
    exact found
  · cases entry

theorem of_storeDerived {geometry : Geometry Float} {halo : List Margin} {outputs : Derived}
    {fields : DerivedTable Field} (stored : storeDerived geometry halo outputs = .ok fields)
    (output : DerivedProperty) :
    ∃ operand, outputs.get output = some operand ∧
      operand.toField output.symbol geometry.grid halo = .ok (fields.get output) := by
  have entry := DerivedTable.get_of_ofFnM stored output
  split at entry
  · rename_i operand found
    exact ⟨operand, found, entry⟩
  · cases entry

theorem assembled_of_build {inputs : Inputs} {medium : PoroelasticMedium}
    (built : build inputs = .ok medium) : Assembled inputs medium := by
  unfold build at built
  obtain ⟨geometry, grid, built⟩ := exists_of_bind_eq_ok built
  obtain ⟨⟨⟩, checked, built⟩ := exists_of_bind_eq_ok built
  obtain ⟨values, completed, built⟩ := exists_of_bind_eq_ok built
  obtain ⟨supplied, made, built⟩ := exists_of_bind_eq_ok built
  obtain ⟨outputs, finished, built⟩ := exists_of_bind_eq_ok built
  obtain ⟨derived, stored, built⟩ := exists_of_bind_eq_ok built
  obtain ⟨absorption, layer, built⟩ := exists_of_bind_eq_ok built
  cases built
  exact
    { geometry := grid
      checked := checked
      supplied := fun property =>
        ⟨values.get property, of_completeInputs completed property,
          RockTable.get_of_ofFnM made property⟩
      derived := ⟨outputs, finished, of_storeDerived stored⟩
      absorption := layer
      spaceOrder := rfl }

theorem Assembled.build_eq_ok {inputs : Inputs} {medium : PoroelasticMedium}
    (assembled : Assembled inputs medium) : build inputs = .ok medium := by
  obtain ⟨grid, checked, supplied, ⟨outputs, finished, derived⟩, layer, order⟩ := assembled
  choose quantity found made using supplied
  choose operand computed stored using derived
  have completed : completeInputs inputs.values = .ok (RockTable.ofFn quantity) := by
    apply RockTable.ofFnM_eq_ok
    intro property
    rw [found, RockTable.get_ofFn]
  have fields : RockTable.ofFnM (fun property => medium.geometry.field property.symbol
      ((RockTable.ofFn quantity).get property) inputs.spaceOrder) = .ok medium.supplied := by
    apply RockTable.ofFnM_eq_ok
    intro property
    rw [RockTable.get_ofFn, made]
  have kept : storeDerived medium.geometry
      (List.replicate medium.geometry.rank (Margin.even inputs.spaceOrder)) outputs =
        .ok medium.derived := by
    apply DerivedTable.ofFnM_eq_ok
    intro output
    rw [computed]
    exact stored output
  simp only [build, grid, checked, completed, fields, finished, kept, layer, bind_ok]
  rw [← order]
  rfl

theorem Assembled.fits {inputs : Inputs} {medium : PoroelasticMedium}
    (assembled : Assembled inputs medium) : medium.geometry.Fits inputs.layout :=
  Geometry.fits_of_new assembled.geometry

/-! ### What is stored -/

section Outputs

variable {geometry : Geometry Float} {layout : Layout Float} {order : Nat}
  {supplied : RockTable Field}

/-- The operands that a derivation reads are the stored values of the supplied fields. -/
theorem agrees_operands (fits : geometry.Fits layout)
    (made : ∀ property, ∃ quantity,
      geometry.field property.symbol quantity order = .ok (supplied.get property))
    (property : RockProperty) :
    Supplied.Agrees (supplied.map fun field => some field.operand) (layout.storageShape order)
      (fun property => (supplied.get property).representation = .varying)
      (fun index => supplied.map fun field => (field.operand.cell? index).getD 0.0) property := by
  obtain ⟨quantity, made⟩ := made property
  refine ⟨(supplied.get property).operand, RockTable.get_map _ _ property, ?_⟩
  have lengths : ∀ held, supplied.get property = .varying held →
      held.storage.shape = layout.storageShape order := by
    intro held here
    rw [here] at made
    exact fits.shape_storage (fits.frameOf_of_field made)
  have agrees := Field.agrees_operand lengths
  simpa using agrees

/-- A derivation from fields of one geometry runs to the end, and every output holds its formula. -/
theorem exists_outputs {isSupplied : RockProperty → Bool} (fits : geometry.Fits layout)
    (made : ∀ property, ∃ quantity,
      geometry.field property.symbol quantity order = .ok (supplied.get property))
    (checked : checkPipeline pipeline isSupplied = .ok ()) :
    ∃ outputs,
      runPipeline (supplied.map fun field => some field.operand) Derived.none pipeline =
          .ok outputs ∧
        ∀ output, Derived.Agrees outputs (layout.storageShape order)
          (fun property => (supplied.get property).representation = .varying)
          (fun index => supplied.map fun field => (field.operand.cell? index).getD 0.0) output :=
  exists_fixedPipeline (fun property _ => agrees_operands fits made property) checked

end Outputs

/-- The values that the supplied fields store in a cell. -/
def rockAt (medium : PoroelasticMedium) (index : List Nat) : RockTable Float :=
  medium.supplied.map fun field => (field.operand.cell? index).getD 0.0

section Stored

variable {inputs : Inputs} {medium : PoroelasticMedium}

theorem Assembled.frame_supplied (assembled : Assembled inputs medium) {property : RockProperty}
    {field : StoredField} (held : medium.supplied.get property = .varying field) :
    field.storage.shape = inputs.layout.storageShape inputs.spaceOrder ∧
      field.halo =
        List.replicate inputs.layout.shape.length (Margin.even inputs.spaceOrder) := by
  obtain ⟨quantity, _, made⟩ := assembled.supplied property
  rw [held] at made
  have frame := assembled.fits.frameOf_of_field made
  exact ⟨assembled.fits.shape_storage frame, assembled.fits.halo_eq frame⟩

theorem Assembled.exists_made (assembled : Assembled inputs medium) (property : RockProperty) :
    ∃ quantity, medium.geometry.field property.symbol quantity inputs.spaceOrder =
      .ok (medium.supplied.get property) := by
  obtain ⟨quantity, _, made⟩ := assembled.supplied property
  exact ⟨quantity, made⟩

theorem Assembled.agrees_supplied (assembled : Assembled inputs medium) (property : RockProperty) :
    Supplied.Agrees (medium.supplied.map fun field => some field.operand)
      (inputs.layout.storageShape inputs.spaceOrder)
      (fun property => (medium.supplied.get property).representation = .varying)
      medium.rockAt property :=
  agrees_operands assembled.fits assembled.exists_made property

/-- Every output of the derivation holds its formula at the stored values of the supplied fields. -/
theorem Assembled.exists_output (assembled : Assembled inputs medium) (output : DerivedProperty) :
    ∃ operand : Operand,
      operand.Agrees (inputs.layout.storageShape inputs.spaceOrder)
          (output.Varies fun property => (medium.supplied.get property).representation = .varying)
          (fun index => (medium.rockAt index).value output) ∧
        operand.toField output.symbol medium.geometry.grid
            (List.replicate medium.geometry.rank (Margin.even inputs.spaceOrder)) =
          .ok (medium.derived.get output) := by
  obtain ⟨outputs, finished, stored⟩ := assembled.derived
  obtain ⟨final, done, agrees⟩ :=
    exists_outputs assembled.fits assembled.exists_made assembled.checked
  rw [finished] at done
  cases done
  obtain ⟨operand, found, holds⟩ := agrees output
  obtain ⟨stored, same, made⟩ := stored output
  rw [found] at same
  cases same
  exact ⟨operand, holds, made⟩

/-- In a medium that was built every derived field stores, in every cell of its storage, the value that
its formula has at the stored values of the supplied fields, rounded once at the end.  It varies exactly
if a supplied field varies from which it follows.  All fields that vary have one storage shape and one
halo. -/
theorem derived_of_build (built : build inputs = .ok medium) :
    (∀ index, InBox (inputs.layout.storageShape inputs.spaceOrder) index →
      ∃ rock : RockTable Float,
        (∀ property, (medium.supplied.get property).operand.cell? index =
          some (rock.get property)) ∧
        ∀ output, (medium.derived.get output).operand.cell? index =
          some (medium.geometry.grid.precision.cast (rock.value output))) ∧
      (∀ output, (medium.derived.get output).representation = .varying ↔
        ∃ property, output.DependsOn property ∧
          (medium.supplied.get property).representation = .varying) ∧
      ∀ field, Field.varying field ∈ medium.fields →
        field.storage.shape = inputs.layout.storageShape inputs.spaceOrder ∧
          field.halo =
            List.replicate inputs.layout.shape.length (Margin.even inputs.spaceOrder) := by
  have assembled := assembled_of_build built
  refine ⟨?_, ?_, ?_⟩
  · intro index inside
    refine ⟨medium.rockAt index, ?_, ?_⟩
    · intro property
      obtain ⟨operand, found, holds⟩ := assembled.agrees_supplied property
      rw [RockTable.get_map] at found
      cases found
      exact holds.cell inside
    · intro output
      obtain ⟨operand, holds, made⟩ := assembled.exists_output output
      exact (holds.toField made).2.1 index inside
  · intro output
    obtain ⟨operand, holds, made⟩ := assembled.exists_output output
    exact (holds.toField made).1
  · intro field member
    rcases List.mem_append.mp member with member | member
    · obtain ⟨property, _, held⟩ := List.mem_map.mp member
      exact assembled.frame_supplied held
    · obtain ⟨output, _, held⟩ := List.mem_map.mp member
      obtain ⟨operand, holds, made⟩ := assembled.exists_output output
      rw [Geometry.rank, assembled.fits.shape] at made
      exact (holds.toField made).2.2 field held

end Stored

/-- Two points of a sandstone inside a layer of one point, whose porosity varies. -/
def sandstone : Inputs where
  layout := { origin := [0.0], spacing := [10.0], shape := [2], layer := 1, precision := .single }
  values :=
    { solidDensity := some (.uniform 2.5)
      fluidDensity := some (.uniform 1.0)
      drainedBulkModulus := some (.uniform 6.5)
      solidBulkModulus := some (.uniform 35.0)
      fluidBulkModulus := some (.uniform 2.25)
      fluidViscosity := some (.uniform 0.001)
      porosity := some (.varying ⟨[2], #v[0.2, 0.3]⟩)
      permeability := some (.uniform 0.6)
      shearModulus := some (.uniform 5.5)
      tortuosity := some (.uniform 1.7) }
  spaceOrder := 2
  grid := none

theorem exists_build_sandstone :
    ∃ medium, build sandstone = .ok medium ∧
      (medium.supplied.get .porosity).representation = .varying :=
  exists_of_map_toOption (by decide +kernel)

/-- The shear velocity of the sandstone varies because the bulk density follows from the porosity. -/
theorem derived_of_build_sandstone :
    ∃ medium, build sandstone = .ok medium ∧
      (medium.derived.get .shearVelocity).representation = .varying ∧
      ∀ index, InBox (sandstone.layout.storageShape sandstone.spaceOrder) index →
        ∃ rock : RockTable Float,
          (∀ property, (medium.supplied.get property).operand.cell? index =
            some (rock.get property)) ∧
          ∀ output, (medium.derived.get output).operand.cell? index =
            some (medium.geometry.grid.precision.cast (rock.value output)) := by
  obtain ⟨medium, built, varies⟩ := exists_build_sandstone
  have follows : DerivedProperty.DependsOn .shearVelocity .porosity :=
    .derived (show .bulkDensity ∈ _ by decide) (.supplied (by decide))
  obtain ⟨cells, varying, _⟩ := derived_of_build built
  exact ⟨medium, built,
    (varying .shearVelocity).mpr ⟨.porosity, follows, varies⟩, cells⟩

end PoroelasticMedium

end WaveMedium
