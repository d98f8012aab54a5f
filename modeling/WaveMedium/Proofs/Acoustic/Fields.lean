/-
Module: WaveMedium.Proofs.Acoustic.Fields
Purpose: What the fields of an acoustic medium hold in every cell of their storage.
Main exports:
  AcousticMedium.Assembled, AcousticMedium.assembled_of_build, AcousticMedium.Assembled.build_eq_ok,
  AcousticMedium.fields_of_build
-/
import WaveMedium.Acoustic
import WaveMedium.Proofs.Geometry

namespace WaveMedium

theorem Quantity.map_id (quantity : Quantity) : quantity.map id = quantity := by
  cases quantity with
  | uniform value => rfl
  | varying values => simp [Quantity.map, Tensor.map]

namespace AcousticMedium

/-! ### The parts of a medium -/

/-- A medium is put together from the parts that its inputs ask for. -/
structure Assembled (inputs : Inputs) (medium : AcousticMedium) : Prop where
  geometry : Geometry.new inputs.layout inputs.grid = .ok medium.geometry
  valid : checkVelocity inputs.velocity = .ok ()
  slowness :
    medium.geometry.field slownessName (inputs.velocity.map slownessSquared) inputs.spaceOrder =
      .ok medium.squaredSlowness
  absorption : medium.geometry.absorption .damping = .ok medium.absorption
  epsilon :
    optionalField medium.geometry epsilonName (inputs.epsilon.map (·.map epsilonFactor)) 1.0
      inputs.spaceOrder = .ok medium.epsilon
  delta :
    optionalField medium.geometry deltaName (inputs.delta.map (·.map deltaFactor)) 1.0
      inputs.spaceOrder = .ok medium.delta
  tilt :
    optionalField medium.geometry tiltName inputs.tilt 0.0 inputs.spaceOrder = .ok medium.tilt
  azimuth :
    optionalField medium.geometry azimuthName (inputs.usedAzimuth medium.geometry.rank).1 0.0
      inputs.spaceOrder = .ok medium.azimuth
  velocity : medium.velocity = inputs.velocity
  scale : medium.scale = scaleOf medium.epsilon
  spaceOrder : medium.spaceOrder = inputs.spaceOrder
  notes : medium.notes = (inputs.usedAzimuth medium.geometry.rank).2

theorem Assembled.build_eq_ok {inputs : Inputs} {medium : AcousticMedium}
    (assembled : Assembled inputs medium) : build inputs = .ok medium := by
  simp only [build, assembled.geometry, assembled.valid, assembled.slowness, assembled.absorption,
    assembled.epsilon, assembled.delta, assembled.tilt, assembled.azimuth, bind_ok]
  rw [← assembled.velocity, ← assembled.scale, ← assembled.spaceOrder, ← assembled.notes]
  rfl

theorem assembled_of_build {inputs : Inputs} {medium : AcousticMedium}
    (built : build inputs = .ok medium) : Assembled inputs medium := by
  unfold build at built
  obtain ⟨geometry, grid, built⟩ := exists_of_bind_eq_ok built
  obtain ⟨⟨⟩, valid, built⟩ := exists_of_bind_eq_ok built
  obtain ⟨slowness, slow, built⟩ := exists_of_bind_eq_ok built
  obtain ⟨absorption, layer, built⟩ := exists_of_bind_eq_ok built
  obtain ⟨epsilon, first, built⟩ := exists_of_bind_eq_ok built
  obtain ⟨delta, second, built⟩ := exists_of_bind_eq_ok built
  obtain ⟨tilt, third, built⟩ := exists_of_bind_eq_ok built
  obtain ⟨azimuth, fourth, built⟩ := exists_of_bind_eq_ok built
  cases built
  exact
    { geometry := grid
      valid := valid
      slowness := slow
      absorption := layer
      epsilon := first
      delta := second
      tilt := third
      azimuth := fourth
      velocity := rfl
      scale := rfl
      spaceOrder := rfl
      notes := rfl }

theorem Assembled.fits {inputs : Inputs} {medium : AcousticMedium}
    (assembled : Assembled inputs medium) : medium.geometry.Fits inputs.layout :=
  Geometry.fits_of_new assembled.geometry

/-! ### What is stored -/

/-- The values that absent quantities have are not changed by rounding. -/
theorem cast_absent (precision : Precision) :
    precision.cast 1.0 = 1.0 ∧ precision.cast 0.0 = 0.0 := by
  cases precision <;> decide +kernel

theorem usedAzimuth_fst (inputs : Inputs) (rank : Nat) :
    (inputs.usedAzimuth rank).1 = if rank = 3 then inputs.azimuth else none := by
  cases supplied : inputs.azimuth with
  | none => simp [Inputs.usedAzimuth, supplied]
  | some azimuth =>
      by_cases solid : rank = 3
      · simp [Inputs.usedAzimuth, supplied, solid]
      · simp [Inputs.usedAzimuth, supplied, solid]

/-- The field of a quantity that may be absent holds what was supplied, or the value for an absent
one. -/
theorem holdsOr_optionalField {geometry : Geometry Float} {layout : Layout Float} {name : String}
    {quantity : Option Quantity} {rule : Float → Float} {absent : Float} {order : Nat}
    {field : Field} (fits : geometry.Fits layout)
    (kept : geometry.precision.cast absent = absent)
    (made : optionalField geometry name (quantity.map (·.map rule)) absent order = .ok field) :
    field.HoldsOr absent name geometry.grid.precision layout order rule quantity := by
  cases quantity with
  | some quantity => exact fits.holds_field made
  | none =>
      cases made
      simp only [Field.HoldsOr, Geometry.uniformField, UniformField.ofValue, kept]
      rfl

/-- Every field of a medium that was built holds what was supplied for it: the velocity as squared
slowness, Thomsen's parameters as factors, and the angles as they are.  The azimuth counts only in three
dimensions.  Without anisotropy the factors are one, and without a tilt the angles are zero. -/
theorem fields_of_build {inputs : Inputs} {medium : AcousticMedium}
    (built : build inputs = .ok medium) :
    medium.squaredSlowness.Holds "m" medium.geometry.grid.precision inputs.layout inputs.spaceOrder
        (fun v => 1.0 / (v * v)) inputs.velocity ∧
      medium.epsilon.HoldsOr 1.0 "epsilon" medium.geometry.grid.precision inputs.layout
        inputs.spaceOrder (fun e => 1.0 + 2.0 * e) inputs.epsilon ∧
      medium.delta.HoldsOr 1.0 "delta" medium.geometry.grid.precision inputs.layout
        inputs.spaceOrder (fun d => (1.0 + 2.0 * d).sqrt) inputs.delta ∧
      medium.tilt.HoldsOr 0.0 "theta" medium.geometry.grid.precision inputs.layout
        inputs.spaceOrder id inputs.tilt ∧
      medium.azimuth.HoldsOr 0.0 "phi" medium.geometry.grid.precision inputs.layout
        inputs.spaceOrder id (if inputs.layout.shape.length = 3 then inputs.azimuth else none) := by
  have assembled := assembled_of_build built
  have fits := assembled.fits
  obtain ⟨one, zero⟩ := cast_absent medium.geometry.precision
  have angle : ∀ quantity : Option Quantity, quantity.map (·.map id) = quantity := by
    intro quantity
    simp [Quantity.map_id]
  have tilt := assembled.tilt
  have azimuth := assembled.azimuth
  rw [← angle inputs.tilt] at tilt
  rw [usedAzimuth_fst, Geometry.rank, fits.shape] at azimuth
  rw [← angle (if inputs.layout.shape.length = 3 then inputs.azimuth else none)] at azimuth
  exact ⟨fits.holds_field assembled.slowness, holdsOr_optionalField fits one assembled.epsilon,
    holdsOr_optionalField fits one assembled.delta, holdsOr_optionalField fits zero tilt,
    holdsOr_optionalField fits zero azimuth⟩

/-- A plane of two by three points inside a layer of one point, with an azimuth that it does not use. -/
def planeInputs : Inputs where
  layout :=
    { origin := [0.0, 0.0], spacing := [10.0, 5.0], shape := [2, 3], layer := 1, precision := .single }
  velocity := .varying ⟨[2, 3], #v[1.5, 1.6, 1.7, 2.5, 2.6, 2.7]⟩
  epsilon := some (.varying ⟨[2, 3], #v[0.1, 0.2, 0.3, 0.1, 0.2, 0.3]⟩)
  delta := some (.uniform 0.1)
  tilt := none
  azimuth := some (.uniform 0.5)
  spaceOrder := 2
  grid := none

theorem exists_build_planeInputs : ∃ medium, build planeInputs = .ok medium :=
  exists_eq_ok_of_toBool (by decide +kernel)

theorem fields_of_build_plane :
    ∃ medium, build planeInputs = .ok medium ∧
      medium.squaredSlowness.Holds "m" medium.geometry.grid.precision planeInputs.layout 2
        (fun v => 1.0 / (v * v)) planeInputs.velocity ∧
      medium.azimuth = .uniform ⟨"phi", medium.geometry.grid.precision, 0.0⟩ := by
  obtain ⟨medium, built⟩ := exists_build_planeInputs
  obtain ⟨slowness, _, _, _, azimuth⟩ := fields_of_build built
  exact ⟨medium, built, slowness, azimuth⟩

end AcousticMedium

end WaveMedium
