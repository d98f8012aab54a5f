/-
Module: WaveMedium.Proofs.Acoustic.Verdict
Purpose: When an acoustic medium can be built, and with which error it is rejected.
Main exports:
  Quantity.IsVelocity, AcousticMedium.Inputs.objections, AcousticMedium.answers_build,
  AcousticMedium.build_verdict
-/
import WaveMedium.Proofs.Tensor.Extrema
import WaveMedium.Proofs.Verdict

namespace WaveMedium

/-! ### Velocities -/

theorem Tensor.all_eq_true_iff {t : Tensor Float} {test : Float → Bool} :
    t.all test = true ↔ ∀ index value, t.get? index = some value → test value = true := by
  have members : t.all test = true ↔ ∀ value ∈ t.cells.toList, test value = true := by
    rw [Tensor.all, ← Vector.all_toList, List.all_eq_true]
  simp only [members, Tensor.mem_cells_iff, forall_exists_index]
  exact ⟨fun each index value => each value index, fun each value index => each index value⟩

/-- A supplied velocity has at least one value, and all are positive and finite. -/
def Quantity.IsVelocity : Quantity → Prop
  | .uniform value => 0.0 < value ∧ value.isFinite = true
  | .varying values =>
      (∃ index, InBox values.shape index) ∧
        ∀ index value, values.get? index = some value → 0.0 < value ∧ value.isFinite = true

namespace AcousticMedium

theorem isVelocity_eq_true_iff {value : Float} :
    isVelocity value = true ↔ 0.0 < value ∧ value.isFinite = true := by
  simp [isVelocity]

theorem allValues_isVelocity_iff {velocity : Quantity} :
    velocity.allValues isVelocity = true ↔ velocity.IsVelocity := by
  cases velocity with
  | uniform value => exact isVelocity_eq_true_iff
  | varying values =>
      simp only [Quantity.allValues, Quantity.IsVelocity, Bool.and_eq_true, Bool.not_eq_true',
        Tensor.isEmpty_eq_false_iff, Tensor.all_eq_true_iff, isVelocity_eq_true_iff,
        exists_inBox_iff]

/-! ### Objections -/

/-- What keeps a medium from being built, in the order in which it is noticed.  The azimuth counts only in
three dimensions. -/
def Inputs.objections (inputs : Inputs) : List (Option (ModelError Float)) :=
  let shape := inputs.layout.shape
  [inputs.layout.defect?.map .layout,
    (inputs.grid.bind inputs.layout.difference?).map .mismatch,
    if inputs.velocity.allValues isVelocity then none else some .velocity,
    inputs.velocity.misfit? slownessName shape,
    inputs.epsilon.bind (·.misfit? epsilonName shape),
    inputs.delta.bind (·.misfit? deltaName shape),
    inputs.tilt.bind (·.misfit? tiltName shape),
    if shape.length = 3 then inputs.azimuth.bind (·.misfit? azimuthName shape) else none]

theorem answers_checkVelocity (velocity : Quantity) :
    Answers (checkVelocity velocity)
      (if velocity.allValues isVelocity then none else some .velocity) := by
  unfold checkVelocity
  split
  · exact .ok ()
  · rfl

theorem bind_misfit?_map (quantity : Option Quantity) (rule : Float → Float) (name : String)
    (shape : List Nat) : (quantity.map (·.map rule)).bind (·.misfit? name shape) =
      quantity.bind (·.misfit? name shape) := by
  cases quantity with
  | none => rfl
  | some quantity => exact quantity.misfit?_map rule

theorem bind_misfit?_usedAzimuth (inputs : Inputs) (rank : Nat) (name : String) (shape : List Nat) :
    (inputs.usedAzimuth rank).1.bind (·.misfit? name shape) =
      if rank = 3 then inputs.azimuth.bind (·.misfit? name shape) else none := by
  rw [usedAzimuth_fst]
  split <;> rfl

theorem answers_optionalField {geometry : Geometry Float} {layout : Layout Float} {order : Nat}
    (fits : geometry.Fits layout) (fit : SizesFit (layout.storageShape order)) (name : String)
    (quantity : Option Quantity) (absent : Float) :
    Answers (optionalField geometry name quantity absent order)
      (quantity.bind (·.misfit? name layout.shape)) := by
  cases quantity with
  | none => exact .ok _
  | some quantity => exact fits.answers_field fit name quantity

/-- A medium is rejected for the first objection, or built. -/
theorem answers_build {inputs : Inputs}
    (fit : SizesFit (inputs.layout.storageShape inputs.spaceOrder)) :
    Answers (build inputs) (inputs.objections.findSome? id) := by
  -- The steps of the build answer the objections one after the other.  The layer, which is made after the
  -- velocity, never objects.
  simp only [Inputs.objections, findSome?_cons_eq_or, id]
  rw [← Option.or_assoc, ← inputs.velocity.misfit?_map slownessSquared,
    ← bind_misfit?_map inputs.epsilon epsilonFactor, ← bind_misfit?_map inputs.delta deltaFactor]
  refine (Geometry.answers_new (Layout.sizesFit_padded fit) inputs.grid).bind
    fun geometry grid => ?_
  have fits := Geometry.fits_of_new grid
  have rank : inputs.layout.shape.length = geometry.rank := (congrArg List.length fits.shape).symm
  rw [rank, ← bind_misfit?_usedAzimuth]
  refine (answers_checkVelocity _).bind fun _ _ => ?_
  refine (fits.answers_field fit _ _).bind fun _ _ => ?_
  refine (fits.answers_absorption (Geometry.length_spacing_of_new grid) _).bind fun _ _ => ?_
  refine (answers_optionalField fits fit _ _ _).bind fun _ _ => ?_
  refine (answers_optionalField fits fit _ _ _).bind fun _ _ => ?_
  refine (answers_optionalField fits fit _ _ _).bind fun _ _ => ?_
  exact (answers_optionalField fits fit _ _ _).bind fun _ _ => .ok _

/-! ### The verdict -/

theorem checkVelocity_eq_ok_iff {velocity : Quantity} :
    checkVelocity velocity = .ok () ↔ velocity.IsVelocity := by
  rw [← allValues_isVelocity_iff, checkVelocity]
  split
  · simp [*]
  · simp [*]

/-- A medium can be built exactly if its layout is a physical grid, a supplied grid is accepted, its
velocity is positive and finite, and what was supplied per point covers the physical region.  Otherwise
it is rejected with the first of its objections, and never for another reason.  Memory for its fields is
taken to be there, as `Storable` has it for every box with cells. -/
theorem build_verdict (inputs : Inputs)
    (fit : SizesFit (inputs.layout.storageShape inputs.spaceOrder)) :
    ((∃ medium, build inputs = .ok medium) ↔
      inputs.layout.validate = .ok () ∧
        (∀ grid, inputs.grid = some grid →
          ∃ geometry, Geometry.new inputs.layout (some grid) = .ok geometry) ∧
        inputs.velocity.IsVelocity ∧ inputs.Fill) ∧
      ∀ failure, build inputs = .error failure ↔
        ∃ error, inputs.objections.findSome? id = some error ∧ failure = .rejected error := by
  refine ⟨?_, (answers_build fit).eq_error_iff⟩
  rw [← checkVelocity_eq_ok_iff]
  constructor
  · rintro ⟨medium, built⟩
    have grid := (assembled_of_build built).geometry
    have accepted : ∀ supplied, inputs.grid = some supplied →
        ∃ geometry, Geometry.new inputs.layout (some supplied) = .ok geometry := by
      intro supplied given
      exact ⟨medium.geometry, given ▸ grid⟩
    exact ⟨Geometry.valid_of_new grid, accepted, (exists_build_iff grid fit).mp ⟨medium, built⟩⟩
  · rintro ⟨valid, accepted, rest⟩
    cases given : inputs.grid with
    | none => exact (exists_build_iff_of_no_grid given fit).mpr ⟨valid, rest⟩
    | some supplied =>
        obtain ⟨geometry, grid⟩ := accepted supplied given
        exact (exists_build_iff (given ▸ grid) fit).mpr rest

/-- The plane with an epsilon and a tilt that do not cover it. -/
def skewedInputs : Inputs :=
  { planeInputs with
    epsilon := some (.varying ⟨[3], #v[0.1, 0.2, 0.3]⟩)
    tilt := some (.varying ⟨[1, 1], #v[0.5]⟩) }

/-- Of the two the epsilon is named. -/
theorem build_verdict_skewed :
    build skewedInputs = .error (.rejected (.shape "epsilon" [2, 3] [3])) ∧
      ∃ medium, build planeInputs = .ok medium := by
  have slow : skewedInputs.velocity.IsVelocity := by
    obtain ⟨medium, built⟩ := exists_build_planeInputs
    exact checkVelocity_eq_ok_iff.mp (assembled_of_build built).valid
  have fill : planeInputs.Fill :=
    { velocity := rfl
      epsilon := by
        rintro _ ⟨⟩
        rfl
      delta := by
        rintro _ ⟨⟩
        trivial
      tilt := by
        rintro _ ⟨⟩
      azimuth := by
        rintro ⟨⟩ }
  have first : skewedInputs.objections.findSome? id = some (.shape "epsilon" [2, 3] [3]) := by
    rw [Inputs.objections, if_pos (allValues_isVelocity_iff.mpr slow)]
    decide
  obtain ⟨_, rejected⟩ := build_verdict skewedInputs (by decide)
  obtain ⟨succeeds, _⟩ := build_verdict planeInputs (by decide)
  exact ⟨(rejected _).mpr ⟨_, first, rfl⟩,
    succeeds.mpr ⟨Layout.validate_eq_ok_iff.mpr (by decide), by rintro _ ⟨⟩, slow, fill⟩⟩

end AcousticMedium

end WaveMedium
