/-
Module: WaveMedium.Proofs.Poroelastic.Interior
Purpose: Deriving on storages that were padded gives what deriving on the physical region and padding
  afterwards gives.
Main exports:
  Field.Covers.pad_eq_ok, Field.Covers.exists_physical, Quantity.operand, Operand.PadsTo,
  PoroelasticMedium.derived_eq_pad
-/
import WaveMedium.Proofs.Poroelastic.Covering

namespace WaveMedium

/-! ### Storages that are padded interiors -/

/-- Behind a margin of the width of layer and halo the nearest cell is the nearest point. -/
theorem Layout.nearestCell_eq (layout : Layout Float) (order : Nat) (index : List Nat) :
    nearestCell
        (List.replicate layout.shape.length (Margin.even (layout.layer + order)))
        layout.shape index =
      layout.nearestPoint order index := by
  rw [nearestCell_even, Layout.nearestPoint]
  congr 1
  funext n i
  rw [Nat.add_comm, Nat.sub_add_eq]

theorem Layout.enlarge_shape (layout : Layout Float) (order : Nat) :
    enlarge layout.shape
        (List.replicate layout.shape.length (Margin.even (layout.layer + order))) =
      layout.storageShape order := by
  rw [enlarge_even, Layout.storageShape]
  congr 1
  funext n
  omega

namespace Field.Covers

variable {layout : Layout Float} {order : Nat} {varies : Prop} {value : List Nat → Float}

/-- The storage of a field that repeats values of the physical region is the box of these values, padded
by the layer and the halo together. -/
theorem pad_eq_ok {field : StoredField} (positive : ∀ n ∈ layout.shape, 0 < n)
    (covers : (Field.varying field).Covers layout order varies value) :
    (Tensor.ofFn layout.shape value).pad
        (List.replicate layout.shape.length (Margin.even (layout.layer + order))) .edge =
      .ok field.storage := by
  have whole := layout.enlarge_shape order
  have shape := (covers.frame field rfl).1
  have fit : SizesFit (layout.storageShape order) := shape ▸ field.sizesFit
  rw [Tensor.pad_eq_ok .edge positive (by simp) (whole.symm ▸ fit), Tensor.shape_ofFn, whole]
  congr 1
  refine Tensor.ext_get? shape.symm fun index inside => ?_
  rw [Tensor.shape_ofFn] at inside
  have stored : field.storage.get? index = some (value (layout.nearestPoint order index)) :=
    covers.cells index inside
  have nearby : InBox layout.shape (layout.nearestPoint order index) := inBox_nearest positive inside
  have shown : (Tensor.ofFn layout.shape value).get? (layout.nearestPoint order index) =
      some (value (layout.nearestPoint order index)) := Tensor.get?_ofFn value nearby
  rw [stored, Tensor.get?_ofFn _ inside, Tensor.paddedValue_edge, Tensor.shape_ofFn,
    layout.nearestCell_eq, Tensor.getD_eq shown]

end Field.Covers

/-! ### Operands of the physical region -/

/-- The values of the physical region while others are derived from them. -/
def Quantity.operand : Quantity → Operand
  | .uniform value => .uniform value
  | .varying values => .varying values

/-- A field holds an operand of the physical region: one value rounded, or the values per point rounded and
then padded by the margins. -/
def Operand.PadsTo (margins : List Margin) (precision : Precision) (field : Field) : Operand → Prop
  | .uniform value =>
      ∃ held, field = .uniform held ∧ held.value = precision.cast value
  | .varying values =>
      ∃ held, field = .varying held ∧
        (values.map precision.cast).pad margins .edge = .ok held.storage

/-- What a field shows of the physical region agrees with the values that it repeats. -/
theorem Field.Covers.exists_physical {field : Field} {layout : Layout Float} {order : Nat}
    {varies : Prop} {value : List Nat → Float}
    (covers : field.Covers layout order varies value) :
    ∃ shown, field.physical ⟨layout.shape.map fun n => ⟨layout.layer, layout.layer + n⟩⟩ = .ok shown ∧
      shown.operand.Agrees layout.shape varies value := by
  have representation := covers.representation
  cases field with
  | uniform held =>
      have fixed : ¬ varies := fun varying => by simpa [Field.representation] using representation.mpr varying
      exact ⟨.uniform held.value, rfl, fixed, fun point inside => (covers.uniform_value inside).symm⟩
  | varying held =>
      refine ⟨.varying (Tensor.ofFn layout.shape value), ?_, representation.mp rfl, rfl, ?_⟩
      · simp only [Field.physical, covers.interior_eq_ok, bind_ok]
        rfl
      · intro point inside
        exact Tensor.get?_ofFn value inside

/-- A field that repeats rounded values holds an operand that agrees with the values on the physical
region. -/
theorem Operand.Agrees.padsTo {operand : Operand} {layout : Layout Float} {order : Nat} {varies : Prop}
    {value : List Nat → Float} {precision : Precision} {field : Field}
    (agrees : operand.Agrees layout.shape varies value) (positive : ∀ n ∈ layout.shape, 0 < n)
    (covers : field.Covers layout order varies fun point => precision.cast (value point)) :
    operand.PadsTo (List.replicate layout.shape.length (Margin.even (layout.layer + order)))
      precision field := by
  have representation := covers.representation
  cases operand with
  | uniform held =>
      cases field with
      | varying stored => exact absurd (representation.mp rfl) agrees.1
      | uniform stored =>
          have point := inBox_zeros positive
          refine ⟨stored, rfl, ?_⟩
          rw [covers.uniform_value point, agrees.2 _ point]
  | varying held =>
      obtain ⟨varying, shape, cells⟩ := agrees
      cases field with
      | uniform stored => simp [Field.representation, varying] at representation
      | varying stored =>
          have rounded : held.map precision.cast =
              Tensor.ofFn layout.shape fun point => precision.cast (value point) := by
            refine Tensor.ext_get? shape fun point inside => ?_
            rw [Tensor.shape_map, shape] at inside
            rw [Tensor.get?_map, cells point inside, Tensor.get?_ofFn _ inside]
            rfl
          refine ⟨stored, rfl, ?_⟩
          rw [rounded]
          exact covers.pad_eq_ok positive

/-! ### The derivation -/

namespace PoroelasticMedium

variable {inputs : Inputs} {medium : PoroelasticMedium}

/-- What the supplied fields show of the physical region is the rock there. -/
theorem Assembled.exists_interior (assembled : Assembled inputs medium) :
    ∃ inner : RockTable Quantity,
      (∀ property, (medium.supplied.get property).physical medium.geometry.grid.interior =
        .ok (inner.get property)) ∧
      ∀ property, Supplied.Agrees (inner.map fun shown => some shown.operand) inputs.layout.shape
        (fun property => (medium.supplied.get property).representation = .varying)
        (inputs.rockOn medium.geometry.grid.precision) property := by
  have each : ∀ property, ∃ shown,
      (medium.supplied.get property).physical medium.geometry.grid.interior = .ok shown ∧
        shown.operand.Agrees inputs.layout.shape
          ((medium.supplied.get property).representation = .varying)
          fun point => (inputs.rockOn medium.geometry.grid.precision point).get property := by
    intro property
    obtain ⟨quantity, found, made⟩ := assembled.supplied property
    have covers := assembled.fits.covers_field made
    obtain ⟨shown, seen, agrees⟩ := covers.exists_physical
    refine ⟨shown, assembled.fits.interior ▸ seen, ?_⟩
    have rock : (fun point => (inputs.rockOn medium.geometry.grid.precision point).get property) =
        fun point => medium.geometry.grid.precision.cast (quantity.valueAt point) := by
      funext point
      rw [Inputs.rockOn, RockTable.get_map, found]
      rfl
    rw [rock]
    exact agrees.congr covers.representation
  choose shown seen agrees using each
  refine ⟨RockTable.ofFn shown, fun property => ?_, fun property => ?_⟩
  · rw [seen, RockTable.get_ofFn]
  · exact ⟨(shown property).operand, by rw [RockTable.get_map, RockTable.get_ofFn], agrees property⟩

/-- In a medium that was built the storage of every derived field that varies is the padding, by the layer
and the halo together, of what the field shows of the physical region.  The derivation that reads only what
the supplied fields show of the physical region runs to the end, and its outputs, rounded and padded, are
the derived fields. -/
theorem derived_eq_pad (built : build inputs = .ok medium) :
    (∀ output field, medium.derived.get output = .varying field →
      ∃ interior, field.interior medium.geometry.grid.interior = .ok interior ∧
        interior.pad (List.replicate medium.geometry.rank
            (Margin.even (medium.geometry.layer + medium.spaceOrder))) .edge = .ok field.storage) ∧
      ∃ (inner : RockTable Quantity) (outputs : Derived),
        (∀ property, (medium.supplied.get property).physical medium.geometry.grid.interior =
          .ok (inner.get property)) ∧
        runPipeline (inner.map fun shown => some shown.operand) Derived.none pipeline = .ok outputs ∧
        ∀ output, ∃ operand, outputs.get output = some operand ∧
          operand.PadsTo (List.replicate medium.geometry.rank
              (Margin.even (medium.geometry.layer + medium.spaceOrder)))
            medium.geometry.grid.precision (medium.derived.get output) := by
  have assembled := assembled_of_build built
  have fits := assembled.fits
  have rank : medium.geometry.rank = inputs.layout.shape.length := congrArg List.length fits.shape
  rw [rank, fits.layer, assembled.spaceOrder]
  constructor
  · intro output field held
    have covers := assembled.covers_derived output
    rw [held] at covers
    exact ⟨_, fits.interior ▸ covers.interior_eq_ok, covers.pad_eq_ok fits.positive⟩
  · obtain ⟨inner, seen, rocks⟩ := assembled.exists_interior
    obtain ⟨outputs, finished, agrees⟩ :=
      exists_fixedPipeline (fun property _ => rocks property) assembled.checked
    refine ⟨inner, outputs, seen, finished, fun output => ?_⟩
    obtain ⟨operand, found, holds⟩ := agrees output
    exact ⟨operand, found, holds.padsTo fits.positive (assembled.covers_derived output)⟩

/-- The bulk density of the sandstone, in a storage that is three cells wider on both sides than the
region. -/
theorem derived_eq_pad_sandstone :
    ∃ medium field interior, build sandstone = .ok medium ∧
      medium.derived.get .bulkDensity = .varying field ∧
      field.interior medium.geometry.grid.interior = .ok interior ∧
      interior.pad [Margin.even 3] .edge = .ok field.storage := by
  have seen : (build sandstone).toOption.map (fun medium =>
      (medium.geometry.rank, medium.geometry.layer + medium.spaceOrder,
        (medium.derived.get .bulkDensity).representation)) = some (1, 3, .varying) := by
    decide +kernel
  obtain ⟨medium, built, shape⟩ := exists_of_map_toOption seen
  obtain ⟨rank, shape⟩ := Prod.mk.inj shape
  obtain ⟨width, varies⟩ := Prod.mk.inj shape
  obtain ⟨padded, _⟩ := derived_eq_pad built
  cases held : medium.derived.get .bulkDensity with
  | uniform field =>
      rw [held] at varies
      cases varies
  | varying field =>
      obtain ⟨interior, shown, stored⟩ := padded .bulkDensity field held
      rw [rank, width] at stored
      exact ⟨medium, field, interior, built, held, shown, stored⟩

end PoroelasticMedium

end WaveMedium
