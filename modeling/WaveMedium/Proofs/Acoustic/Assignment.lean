/-
Module: WaveMedium.Proofs.Acoustic.Assignment
Purpose: Which velocities a medium can be given, with which error it refuses the others, and what a call
  changes.
Main exports:
  Field.SameFrame, Geometry.Fits.sameFrame_of_field, AcousticMedium.objection?_eq_none_iff,
  AcousticMedium.assignVelocity_verdict
-/
import WaveMedium.Proofs.Acoustic.CriticalStep
import WaveMedium.Proofs.Acoustic.Verdict

namespace WaveMedium

/-! ### Frames of fields -/

/-- Two fields differ in their values alone. -/
def Field.SameFrame : Field → Field → Prop
  | .uniform a, .uniform b => a.name = b.name ∧ a.precision = b.precision
  | .varying a, .varying b => a.SameFrame b
  | _, _ => False

@[simp] theorem Quantity.representation_map (quantity : Quantity) (f : Float → Float) :
    (quantity.map f).representation = quantity.representation := by
  cases quantity <;> rfl

/-- Fields that are made for one name and one stencil have one frame if both have one value or both have one
per cell. -/
theorem Geometry.Fits.sameFrame_of_field {geometry : Geometry Float} {layout : Layout Float}
    {name : String} {order : Nat} {quantity other : Quantity} {first second : Field}
    (fits : geometry.Fits layout) (made : geometry.field name quantity order = .ok first)
    (remade : geometry.field name other order = .ok second)
    (same : second.representation = first.representation) : first.SameFrame second := by
  rw [representation_of_field made, representation_of_field remade] at same
  cases quantity with
  | uniform value =>
      cases other with
      | uniform again =>
          cases made
          cases remade
          exact ⟨rfl, rfl⟩
      | varying values => cases same
  | varying values =>
      cases other with
      | uniform again => cases same
      | varying others =>
          obtain ⟨blank, zeroed, _, rfl⟩ := fits.of_field_varying made
          obtain ⟨other, zeroedAgain, _, rfl⟩ := fits.of_field_varying remade
          obtain rfl := Except.ok.inj (zeroed.symm.trans zeroedAgain)
          exact (StoredField.sameFrame_extended _ values _ _).trans
            (StoredField.sameFrame_extended _ others _ _).symm

namespace AcousticMedium

theorem objection?_eq_none_iff {medium : AcousticMedium} {velocity : Quantity} :
    medium.objection? velocity = none ↔
      velocity.IsVelocity ∧ velocity.representation = medium.squaredSlowness.representation ∧
        velocity.Fills medium.geometry.shape := by
  rw [← allValues_isVelocity_iff, ← @Quantity.misfit?_eq_none_iff slownessName]
  unfold objection? slownessObjection?
  split_ifs <;> simp [*]

/-! ### The verdict on a call -/

/-- After any earlier calls, a medium can be given a velocity exactly if all its values are positive and finite,
it has one value or one per point as the slowness has, and values per point cover the physical region.
Otherwise the first objection is the error, and the medium is left as it was.  What a successful call changes
is the velocity and the values of the slowness. -/
theorem assignVelocity_verdict {inputs : Inputs} {medium before after : AcousticMedium}
    {earlier : List Quantity} {velocity : Quantity} {answer : Outcome Unit}
    (built : build inputs = .ok medium) (reached : (assignAll earlier medium).2 = before)
    (called : (assignVelocity velocity).perform before = (answer, after)) :
    (answer = .ok () ↔
      velocity.IsVelocity ∧ velocity.representation = before.squaredSlowness.representation ∧
        velocity.Fills before.geometry.shape) ∧
      (∀ failure, answer = .error failure ↔
        ∃ error, before.objection? velocity = some error ∧ failure = .rejected error) ∧
      match answer with
      | .ok _ => ∃ slowness, before.squaredSlowness.SameFrame slowness ∧
          after = { before with velocity := velocity, squaredSlowness := slowness }
      | .error _ => after = before := by
  obtain ⟨last, assembled⟩ := (assembled_of_build built).exists_assignAll earlier
  rw [reached] at assembled
  have performed := assembled.perform_assignVelocity_eq velocity
  rw [← objection?_eq_none_iff]
  cases objection : before.objection? velocity with
  | none =>
      rw [objection] at performed
      obtain ⟨slowness, made, done⟩ := performed
      obtain ⟨rfl, rfl⟩ := Prod.mk.inj (called.symm.trans done)
      have same : slowness.representation = before.squaredSlowness.representation := by
        rw [Geometry.representation_of_field made, Quantity.representation_map,
          (objection?_eq_none_iff.mp objection).2.1]
      exact ⟨by simp, by simp, slowness,
        assembled.fits.sameFrame_of_field assembled.slowness made same, rfl⟩
  | some error =>
      rw [objection] at performed
      obtain ⟨rfl, rfl⟩ := Prod.mk.inj (called.symm.trans performed)
      exact ⟨by simp, by simp [eq_comm], rfl⟩

/-- After its velocities the line refuses a value that is no velocity, one velocity for all points and too few of
them.  It takes others in the place of those that it has. -/
theorem assignVelocity_verdict_line :
    ∃ medium before, build lineInputs = .ok medium ∧ (assignAll lineVelocities medium).2 = before ∧
      (assignVelocity (.uniform (-4.0))).perform before = (.error (.rejected .velocity), before) ∧
      (assignVelocity (.uniform 4.0)).perform before =
        (.error (.rejected (.representation "m" .varying .uniform)), before) ∧
      (assignVelocity (.varying ⟨[2], #v[1.0, 1.0]⟩)).perform before =
        (.error (.rejected (.shape "m" [3] [2])), before) ∧
      ∃ slowness, before.squaredSlowness.SameFrame slowness ∧
        (assignVelocity (.varying ⟨[3], #v[1.0, 2.0, 3.0]⟩)).perform before =
          (.ok (), { before with
            velocity := .varying ⟨[3], #v[1.0, 2.0, 3.0]⟩, squaredSlowness := slowness }) := by
  obtain ⟨medium, built, seen⟩ := exists_assignAll_line
  obtain ⟨_, kind, shape⟩ := by simpa only [Prod.mk.injEq] using seen
  have few : (Quantity.varying ⟨[2], #v[1.0, 1.0]⟩).allValues isVelocity = true := by
    simp +decide [Quantity.allValues, Tensor.all, Vector.all]
  have fast : (Quantity.varying ⟨[3], #v[1.0, 2.0, 3.0]⟩).allValues isVelocity = true := by
    simp +decide [Quantity.allValues, Tensor.all, Vector.all]
  generalize reached : (assignAll lineVelocities medium).2 = before at kind shape
  have refused : ∀ velocity error, before.objection? velocity = some error →
      (assignVelocity velocity).perform before = (.error (.rejected error), before) := by
    intro velocity error found
    rcases called : (assignVelocity velocity).perform before with ⟨answer, after⟩
    obtain ⟨_, refusal, rest⟩ := assignVelocity_verdict built reached called
    obtain rfl := (refusal _).mpr ⟨error, found, rfl⟩
    rw [show after = before from rest]
  refine ⟨medium, before, built, reached, refused _ _ ?_, refused _ _ ?_, refused _ _ ?_, ?_⟩
  · rw [objection?, slownessObjection?, kind, shape]
    decide
  · rw [objection?, slownessObjection?, kind, shape]
    decide
  · rw [objection?, slownessObjection?, kind, shape, few]
    rfl
  · rcases called : (assignVelocity (.varying ⟨[3], #v[1.0, 2.0, 3.0]⟩)).perform before with ⟨answer, after⟩
    obtain ⟨accepted, _, rest⟩ := assignVelocity_verdict built reached called
    obtain rfl := accepted.mpr ⟨allValues_isVelocity_iff.mp fast, kind.symm, shape.symm⟩
    obtain ⟨slowness, frame, rfl⟩ := rest
    exact ⟨slowness, frame, rfl⟩

end AcousticMedium

end WaveMedium
