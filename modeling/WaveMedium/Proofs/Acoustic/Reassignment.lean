/-
Module: WaveMedium.Proofs.Acoustic.Reassignment
Purpose: A medium that was given other velocities is the medium that would have been built with the
  last of them.
Main exports:
  AcousticMedium.objection?, AcousticMedium.Assembled.perform_assignVelocity_eq,
  AcousticMedium.Assembled.perform_assignVelocity, AcousticMedium.assignAll,
  AcousticMedium.lastAccepted, AcousticMedium.build_lastAccepted
-/
import WaveMedium.Proofs.Verdict

namespace WaveMedium.AcousticMedium

open Change

/-! ### One velocity -/

/-- With another velocity in its inputs a medium differs in the velocity and the slowness. -/
theorem Assembled.withVelocity {inputs : Inputs} {medium : AcousticMedium}
    (assembled : Assembled inputs medium) {velocity : Quantity} {slowness : Field}
    (valid : checkVelocity velocity = .ok ())
    (slow : medium.geometry.field slownessName (velocity.map slownessSquared) inputs.spaceOrder =
      .ok slowness) :
    Assembled { inputs with velocity := velocity }
      { medium with velocity := velocity, squaredSlowness := slowness } where
  geometry := assembled.geometry
  valid := valid
  slowness := slow
  absorption := assembled.absorption
  epsilon := assembled.epsilon
  delta := assembled.delta
  tilt := assembled.tilt
  azimuth := assembled.azimuth
  velocity := rfl
  scale := assembled.scale
  spaceOrder := assembled.spaceOrder
  notes := assembled.notes

section Slowness

variable {medium : AcousticMedium}

theorem perform_assignSlowness_uniform {field : UniformField} (value : Float)
    (held : medium.squaredSlowness = .uniform field) :
    (assignSlowness (.uniform value)).perform medium =
      (.ok (), { medium with squaredSlowness := .uniform (field.set (slownessSquared value)) }) := by
  simp only [assignSlowness, perform_bind, perform_get, held, perform_set]

/-- What is written into the stored values stays written, whether writing them succeeds or not. -/
theorem perform_assignSlowness_varying {field written : StoredField} {answer : Outcome Unit}
    {values : Tensor Float} (held : medium.squaredSlowness = .varying field)
    (done : (medium.geometry.extend (values.map slownessSquared)).perform field =
      (answer, written)) :
    (assignSlowness (.varying values)).perform medium =
      (answer, { medium with squaredSlowness := .varying written }) := by
  simp only [assignSlowness, perform_bind, perform_get, held, perform_set, done, perform_lift]

theorem perform_assignSlowness_of_ne {velocity : Quantity}
    (apart : medium.squaredSlowness.representation ≠ velocity.representation) :
    (assignSlowness velocity).perform medium =
      (.error (.rejected (.representation medium.squaredSlowness.name
        medium.squaredSlowness.representation velocity.representation)), medium) := by
  cases held : medium.squaredSlowness with
  | uniform field =>
      cases velocity with
      | uniform value => simp [held, Field.representation, Quantity.representation] at apart
      | varying values =>
          simp only [assignSlowness, perform_bind, perform_get, held, perform_throw]
  | varying field =>
      cases velocity with
      | uniform value => simp only [assignSlowness, perform_bind, perform_get, held, perform_throw]
      | varying values => simp [held, Field.representation, Quantity.representation] at apart

/-- What keeps the slowness from being written for a velocity: that one of the two has one value and the other
one per point, or else that the values per point do not cover the physical region. -/
def slownessObjection? (medium : AcousticMedium) (velocity : Quantity) : Option (ModelError Float) :=
  if velocity.representation = medium.squaredSlowness.representation then
    velocity.misfit? slownessName medium.geometry.shape
  else some (.representation slownessName medium.squaredSlowness.representation velocity.representation)

/-- What keeps a medium from being given a velocity.  The values are looked at first. -/
def objection? (medium : AcousticMedium) (velocity : Quantity) : Option (ModelError Float) :=
  if velocity.allValues isVelocity then medium.slownessObjection? velocity else some .velocity

/-- Without an objection, writing the slowness for another velocity leaves the field that would have been made
for that velocity.  Otherwise it fails and leaves the medium as it was. -/
theorem Assembled.perform_assignSlowness {inputs : Inputs} (assembled : Assembled inputs medium)
    (velocity : Quantity) :
    match medium.slownessObjection? velocity with
    | none => ∃ slowness,
        medium.geometry.field slownessName (velocity.map slownessSquared) inputs.spaceOrder =
            .ok slowness ∧
          (assignSlowness velocity).perform medium =
            (.ok (), { medium with squaredSlowness := slowness })
    | some error => (assignSlowness velocity).perform medium = (.error (.rejected error), medium) := by
  have fits := assembled.fits
  have made := assembled.slowness
  by_cases same : velocity.representation = medium.squaredSlowness.representation
  · rw [slownessObjection?, if_pos same]
    rw [Geometry.representation_of_field made] at same
    cases supplied : inputs.velocity with
    | uniform before =>
        rw [supplied] at made same
        cases velocity with
        | varying values => cases same
        | uniform value =>
            cases held : medium.squaredSlowness with
            | varying field =>
                rw [held] at made
                cases made
            | uniform field =>
                rw [held] at made
                cases made
                exact ⟨_, rfl, perform_assignSlowness_uniform value held⟩
    | varying before =>
        rw [supplied] at made same
        cases velocity with
        | uniform value => cases same
        | varying values =>
            -- The storage that is overwritten has the frame of the blank one that was filled at first.
            obtain ⟨blank, zeroed, _, held⟩ := fits.of_field_varying made
            have frame := (StoredField.frameOf_ofOrder zeroed).extended
              (before.map slownessSquared) medium.geometry.layer .edge
            rw [Quantity.misfit?]
            by_cases fills : (values.map slownessSquared).shape = medium.geometry.shape
            · have done := fits.perform_extend frame fills
              rw [StoredField.extended_congr (blank.sameFrame_extended _ _ _)] at done
              rw [if_pos (by simpa using fills)]
              exact ⟨_, fits.field_varying zeroed fills, perform_assignSlowness_varying held done⟩
            · have refused := perform_assignSlowness_varying held
                (Geometry.perform_extend_of_ne fills)
              rw [← held, frame.name] at refused
              rw [if_neg (by simpa using fills)]
              exact refused
  · rw [slownessObjection?, if_neg same, perform_assignSlowness_of_ne (Ne.symm same),
      fits.name_of_field made]

end Slowness

/-- Without an objection, a call leaves the slowness for the new velocity and this velocity.  Otherwise it
fails and leaves the medium as it was. -/
theorem Assembled.perform_assignVelocity_eq {inputs : Inputs} {medium : AcousticMedium}
    (assembled : Assembled inputs medium) (velocity : Quantity) :
    match medium.objection? velocity with
    | none => ∃ slowness,
        medium.geometry.field slownessName (velocity.map slownessSquared) inputs.spaceOrder =
            .ok slowness ∧
          (assignVelocity velocity).perform medium =
            (.ok (), { medium with velocity := velocity, squaredSlowness := slowness })
    | some error => (assignVelocity velocity).perform medium = (.error (.rejected error), medium) := by
  have written := assembled.perform_assignSlowness velocity
  by_cases valid : velocity.allValues isVelocity = true
  · have checked : checkVelocity velocity = .ok () := if_pos valid
    rw [objection?, if_pos valid]
    cases objection : medium.slownessObjection? velocity with
    | none =>
        rw [objection] at written
        obtain ⟨slowness, made, written⟩ := written
        refine ⟨slowness, made, ?_⟩
        simp only [assignVelocity, perform_bind, perform_lift, checked, written, perform_modify]
    | some error =>
        have refused : (assignSlowness velocity).perform medium = (.error (.rejected error), medium) := by
          rwa [objection] at written
        simp only [assignVelocity, perform_bind, perform_lift, checked, refused]
  · have checked : checkVelocity velocity = .error (.rejected .velocity) := if_neg valid
    rw [objection?, if_neg valid]
    simp only [assignVelocity, perform_bind, perform_lift, checked]

/-- A call either leaves the medium that would have been built with the new velocity, or it fails and
leaves the medium as it was. -/
theorem Assembled.perform_assignVelocity {inputs : Inputs} {medium : AcousticMedium}
    (assembled : Assembled inputs medium) (velocity : Quantity) :
    (∃ after, (assignVelocity velocity).perform medium = (.ok (), after) ∧
        Assembled { inputs with velocity := velocity } after) ∨
      ∃ failure, (assignVelocity velocity).perform medium = (.error failure, medium) := by
  have performed := assembled.perform_assignVelocity_eq velocity
  cases objection : medium.objection? velocity with
  | none =>
      rw [objection] at performed
      obtain ⟨slowness, made, done⟩ := performed
      have valid : checkVelocity velocity = .ok () := by
        rw [checkVelocity, if_pos]
        by_contra invalid
        rw [objection?, if_neg invalid] at objection
        cases objection
      exact .inl ⟨_, done, assembled.withVelocity valid made⟩
  | some error =>
      rw [objection] at performed
      exact .inr ⟨_, performed⟩

/-! ### Many velocities -/

/-- Give a medium one velocity after the other.  Each call goes on from the medium that the call before
it left, whether that one succeeded or not. -/
def assignAll : List Quantity → AcousticMedium → List (Outcome Unit) × AcousticMedium
  | [], medium => ([], medium)
  | velocity :: velocities, medium =>
      let (answer, after) := (assignVelocity velocity).perform medium
      let (answers, final) := assignAll velocities after
      (answer :: answers, final)

/-- The last velocity whose call succeeded, and a given one if no call did. -/
def lastAccepted : Quantity → List Quantity → List (Outcome Unit) → Quantity
  | _, velocity :: velocities, .ok _ :: answers => lastAccepted velocity velocities answers
  | original, _ :: velocities, .error _ :: answers => lastAccepted original velocities answers
  | original, _, _ => original

/-- After any calls, of which any may have failed, a medium is the medium that is built with the last
velocity that was accepted, and the medium that was built at first if none was. -/
theorem build_lastAccepted {inputs : Inputs} {medium : AcousticMedium}
    (built : build inputs = .ok medium) (velocities : List Quantity) :
    build { inputs with
        velocity := lastAccepted inputs.velocity velocities (assignAll velocities medium).1 } =
      .ok (assignAll velocities medium).2 := by
  induction velocities generalizing inputs medium with
  | nil => exact built
  | cons velocity velocities ih =>
      have assembled := assembled_of_build built
      rcases assembled.perform_assignVelocity velocity with ⟨after, accepted, next⟩ | refused
      · have rest := ih next.build_eq_ok
        simpa only [assignAll, accepted, lastAccepted] using rest
      · obtain ⟨failure, refused⟩ := refused
        have rest := ih built
        simpa only [assignAll, refused, lastAccepted] using rest

/-- Three points on a line inside a layer of two points. -/
def lineInputs : Inputs where
  layout := { origin := [0.0], spacing := [10.0], shape := [3], layer := 2, precision := .single }
  velocity := .varying ⟨[3], #v[1.5, 2.0, 2.5]⟩
  epsilon := some (.uniform 0.1)
  delta := none
  tilt := none
  azimuth := none
  spaceOrder := 2
  grid := none

/-- Velocities for the line: two that are accepted, and between them and after them one that is not
positive, one with too few points and one that is uniform. -/
def lineVelocities : List Quantity :=
  [.varying ⟨[3], #v[4.0, 4.5, 5.0]⟩, .varying ⟨[3], #v[1.0, 0.0, 1.0]⟩,
    .varying ⟨[3], #v[3.0, 3.5, 3.75]⟩, .varying ⟨[2], #v[1.0, 1.0]⟩, .uniform 4.0]

/-- Two of the velocities are accepted, and the slowness varies over the three points as before. -/
theorem exists_assignAll_line :
    ∃ medium, build lineInputs = .ok medium ∧
      ((assignAll lineVelocities medium).1.map Except.toBool,
        (assignAll lineVelocities medium).2.squaredSlowness.representation,
        (assignAll lineVelocities medium).2.geometry.shape) =
      ([true, false, true, false, false], .varying, [3]) :=
  exists_of_map_toOption (by decide +kernel)

theorem build_lastAccepted_line :
    ∃ medium, build lineInputs = .ok medium ∧
      (assignAll lineVelocities medium).1.map Except.toBool = [true, false, true, false, false] ∧
      build { lineInputs with
          velocity :=
            lastAccepted lineInputs.velocity lineVelocities (assignAll lineVelocities medium).1 } =
        .ok (assignAll lineVelocities medium).2 := by
  obtain ⟨medium, built, seen⟩ := exists_assignAll_line
  exact ⟨medium, built, (Prod.mk.inj seen).1, build_lastAccepted built lineVelocities⟩

end WaveMedium.AcousticMedium
