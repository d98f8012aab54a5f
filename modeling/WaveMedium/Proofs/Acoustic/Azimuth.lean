/-
Module: WaveMedium.Proofs.Acoustic.Azimuth
Purpose: Below three dimensions a supplied azimuth is remarked on and has no other effect, neither while
  the medium is built nor later.
Main exports:
  AcousticMedium.withNotes, AcousticMedium.perform_assignVelocity_withNotes,
  AcousticMedium.assignAll_withNotes, AcousticMedium.build_withAzimuth, AcousticMedium.azimuth_irrelevant
-/
import WaveMedium.Proofs.Acoustic.Reassignment

namespace WaveMedium.AcousticMedium

open Change

/-! ### Remarks -/

/-- The same medium with other remarks. -/
def withNotes (medium : AcousticMedium) (notes : List Note) : AcousticMedium :=
  { medium with notes := notes }

section Notes

variable (medium : AcousticMedium) (notes : List Note)

@[simp] theorem squaredSlowness_withNotes :
    (medium.withNotes notes).squaredSlowness = medium.squaredSlowness := rfl

theorem criticalStep_withNotes : (medium.withNotes notes).criticalStep = medium.criticalStep := rfl

/-- Writing the slowness neither reads nor changes the remarks. -/
theorem perform_assignSlowness_withNotes (velocity : Quantity) :
    (assignSlowness velocity).perform (medium.withNotes notes) =
      Prod.map id (·.withNotes notes) ((assignSlowness velocity).perform medium) := by
  have same := medium.squaredSlowness_withNotes notes
  cases held : medium.squaredSlowness with
  | uniform field =>
      rw [held] at same
      cases velocity with
      | uniform value =>
          rw [perform_assignSlowness_uniform value held, perform_assignSlowness_uniform value same]
          rfl
      | varying values =>
          simp only [assignSlowness, perform_bind, perform_get, held, same, perform_throw]
          rfl
  | varying field =>
      rw [held] at same
      cases velocity with
      | uniform value =>
          simp only [assignSlowness, perform_bind, perform_get, held, same, perform_throw]
          rfl
      | varying values =>
          rcases done : (medium.geometry.extend (values.map slownessSquared)).perform field with
            ⟨answer, written⟩
          rw [perform_assignSlowness_varying held done, perform_assignSlowness_varying same done]
          rfl

/-- Nor does a call that gives the medium another velocity, whether it succeeds or fails. -/
theorem perform_assignVelocity_withNotes (velocity : Quantity) :
    (assignVelocity velocity).perform (medium.withNotes notes) =
      Prod.map id (·.withNotes notes) ((assignVelocity velocity).perform medium) := by
  cases checked : checkVelocity velocity with
  | error failure =>
      simp only [assignVelocity, perform_bind, perform_lift, checked]
      rfl
  | ok _ =>
      simp only [assignVelocity, perform_bind, perform_lift, checked, perform_assignSlowness_withNotes]
      rcases (assignSlowness velocity).perform medium with ⟨answer, after⟩
      cases answer with
      | error failure => rfl
      | ok _ => rfl

/-- Media that differ in their remarks alone give the same answers to any calls, and still differ in their
remarks alone. -/
theorem assignAll_withNotes (velocities : List Quantity) :
    assignAll velocities (medium.withNotes notes) =
      Prod.map id (·.withNotes notes) (assignAll velocities medium) := by
  induction velocities generalizing medium with
  | nil => rfl
  | cons velocity velocities ih =>
      simp only [assignAll, perform_assignVelocity_withNotes, Prod.map_fst, Prod.map_snd, ih]
      rfl

end Notes

/-! ### An azimuth that is not used -/

/-- Calls leave the remarks of a medium as they are. -/
theorem notes_assignAll (velocities : List Quantity) (medium : AcousticMedium) :
    (assignAll velocities medium).2.notes = medium.notes := by
  have kept := assignAll_withNotes medium medium.notes velocities
  exact congrArg (fun run => run.2.notes) kept

/-- Without a third axis, a medium that is supplied with an azimuth is built as one without, and remarks
on it.  If the one is rejected, so is the other, and for the same reason. -/
theorem build_withAzimuth {inputs : Inputs} (flat : inputs.layout.shape.length ≠ 3)
    (azimuth : Quantity) :
    build { inputs with azimuth := some azimuth } =
      (·.withNotes [.azimuthIgnored inputs.layout.shape.length]) <$>
        build { inputs with azimuth := none } := by
  simp only [build, map_bind]
  cases grid : Geometry.new inputs.layout inputs.grid with
  | error failure => rfl
  | ok geometry =>
      have rank : geometry.rank = inputs.layout.shape.length :=
        congrArg List.length (Geometry.fits_of_new grid).shape
      simp only [bind_ok, Inputs.usedAzimuth, rank, if_neg flat]
      rfl

/-- With one or two axes an azimuth of any kind is irrelevant.  A medium with it is built exactly if the one
without it is, and is refused for the same reason.  The two media are equal but for their remarks: the one
with the azimuth has the single remark that a medium of its rank does not use it, and the other has none.
After the same calls to both, which get the same answers, that is still so, and the largest stable time
step of the two is the same. -/
theorem azimuth_irrelevant {inputs : Inputs} (flat : inputs.layout.shape.length < 3)
    (azimuth : Quantity) :
    (∀ failure, build { inputs with azimuth := some azimuth } = .error failure ↔
        build { inputs with azimuth := none } = .error failure) ∧
      ∀ plain, build { inputs with azimuth := none } = .ok plain →
        plain.notes = [] ∧
          build { inputs with azimuth := some azimuth } =
            .ok { plain with notes := [.azimuthIgnored plain.geometry.rank] } ∧
          ∀ velocities,
            (assignAll velocities plain).2.notes = [] ∧
              assignAll velocities { plain with notes := [.azimuthIgnored plain.geometry.rank] } =
                ((assignAll velocities plain).1,
                  { (assignAll velocities plain).2 with
                    notes := [.azimuthIgnored plain.geometry.rank] }) ∧
              (assignAll velocities
                  { plain with notes := [.azimuthIgnored plain.geometry.rank] }).2.criticalStep =
                (assignAll velocities plain).2.criticalStep := by
  have remarked := build_withAzimuth (Nat.ne_of_lt flat) azimuth
  constructor
  · intro failure
    rw [remarked]
    cases build { inputs with azimuth := none } with
    | error other => rfl
    | ok medium =>
        constructor
        · intro failed
          cases failed
        · intro failed
          cases failed
  · intro plain built
    have assembled := assembled_of_build built
    have rank : plain.geometry.rank = inputs.layout.shape.length :=
      congrArg List.length assembled.fits.shape
    have silent : plain.notes = [] := assembled.notes
    rw [built, ← rank] at remarked
    refine ⟨silent, remarked, fun velocities => ?_⟩
    have later := assignAll_withNotes plain [.azimuthIgnored plain.geometry.rank] velocities
    refine ⟨(notes_assignAll velocities plain).trans silent, later, ?_⟩
    exact (congrArg (fun run => run.2.criticalStep) later).trans (criticalStep_withNotes _ _)

/-- Four values that are no numbers, for a plane of six points. -/
def brokenAzimuth : Quantity := .varying (.full [4] (0.0 / 0.0))

/-- Velocities for the plane: one for all points, which it refuses, and one for each, which it takes. -/
def planeVelocities : List Quantity := [.uniform 2.0, .varying (.full [2, 3] 3.0)]

theorem azimuth_irrelevant_plane :
    ∃ plain, build { planeInputs with azimuth := none } = .ok plain ∧
      build { planeInputs with azimuth := some brokenAzimuth } =
        .ok { plain with notes := [.azimuthIgnored 2] } ∧
      (assignAll planeVelocities plain).1.map Except.toBool = [false, true] ∧
      assignAll planeVelocities { plain with notes := [.azimuthIgnored 2] } =
        ((assignAll planeVelocities plain).1,
          { (assignAll planeVelocities plain).2 with notes := [.azimuthIgnored 2] }) := by
  have shown : (build { planeInputs with azimuth := none }).toOption.map (fun medium =>
      (medium.geometry.rank, (assignAll planeVelocities medium).1.map Except.toBool)) =
      some (2, [false, true]) := by decide +kernel
  obtain ⟨plain, built, facts⟩ := exists_of_map_toOption shown
  obtain ⟨rank, answers⟩ := Prod.mk.inj facts
  have flat : planeInputs.layout.shape.length < 3 := by decide
  obtain ⟨_, succeeds⟩ := azimuth_irrelevant flat brokenAzimuth
  obtain ⟨_, remarked, later⟩ := succeeds plain built
  rw [rank] at remarked later
  obtain ⟨_, same, _⟩ := later planeVelocities
  exact ⟨plain, built, remarked, answers, same⟩

end WaveMedium.AcousticMedium
