/-
Module: WaveMedium.Proofs.Acoustic.CriticalStep
Purpose: What the critical time step of an acoustic medium is worth: how it lies to the stable step, and when
  it is positive.
Main exports:
  AcousticMedium.Assembled.exists_assignAll, AcousticMedium.criticalStep_le_stableStep,
  AcousticMedium.criticalStep_pos_iff
-/
import Mathlib
import WaveMedium.Proofs.Acoustic.Reassignment
import WaveMedium.Proofs.Acoustic.Verdict
import WaveMedium.Proofs.Spacing
import WaveMedium.Proofs.TimeStep

namespace WaveMedium.AcousticMedium

open Number

/-! ### The stable step -/

/-- After any calls a medium is put together from its inputs with some velocity. -/
theorem Assembled.exists_assignAll {inputs : Inputs} {medium : AcousticMedium}
    (assembled : Assembled inputs medium) (velocities : List Quantity) :
    ∃ velocity, Assembled { inputs with velocity := velocity } (assignAll velocities medium).2 := by
  induction velocities generalizing inputs medium with
  | nil => exact ⟨inputs.velocity, assembled⟩
  | cons velocity velocities ih =>
      rcases assembled.perform_assignVelocity velocity with ⟨after, accepted, next⟩ | refused
      · obtain ⟨last, rest⟩ := ih next
        exact ⟨last, by simpa only [assignAll, accepted] using rest⟩
      · obtain ⟨failure, refused⟩ := refused
        obtain ⟨last, rest⟩ := ih assembled
        exact ⟨last, by simpa only [assignAll, refused] using rest⟩

theorem toReal_courantNumber_nonneg (rank : Nat) : 0 ≤ toReal (courantNumber rank) := by
  unfold courantNumber
  split
  · exact toReal_nonneg_of_lt (by decide)
  · exact toReal_nonneg_of_lt (by decide)

theorem toReal_scaleOf_nonneg (epsilon : Field) : 0 ≤ toReal (scaleOf epsilon) := by
  have one : 0 ≤ toReal 1.0 := toReal_nonneg_of_lt (by decide)
  cases epsilon with
  | uniform field => exact one
  | varying field =>
      unfold scaleOf
      dsimp only
      split
      · rename_i above
        exact toReal_sqrt_nonneg (toReal_nonneg_of_lt above)
      · exact one

theorem toReal_largest_nonneg {velocity : Quantity} (valid : checkVelocity velocity = .ok ()) :
    0 ≤ toReal velocity.largest := by
  have fast := checkVelocity_eq_ok_iff.mp valid
  cases velocity with
  | uniform value => exact toReal_nonneg_of_lt fast.1
  | varying values =>
      rcases values.extreme_largest.found with absent | member
      · have bottom := Bool.eq_false_iff.mp negativeInfinity_spec.2.2
        rw [Quantity.largest, absent, toReal_of_not_isFinite bottom]
      · obtain ⟨index, found⟩ := Tensor.mem_cells_iff.mp member
        exact toReal_nonneg_of_lt (fast.2 index _ found).1

theorem Assembled.toReal_stableStep_nonneg {inputs : Inputs} {medium : AcousticMedium}
    (assembled : Assembled inputs medium) : 0 ≤ toReal medium.stableStep := by
  have spacing := (Geometry.leastSpacing_spec assembled.geometry).2.le
  have largest := toReal_largest_nonneg assembled.valid
  rw [← assembled.velocity] at largest
  have scale : 0 ≤ toReal medium.scale := by
    rw [assembled.scale]
    exact toReal_scaleOf_nonneg _
  exact toReal_div_nonneg (toReal_mul_nonneg (toReal_courantNumber_nonneg _) spacing)
    (toReal_mul_nonneg scale largest)

/-! ### The critical step and the stable step -/

/-- After any calls the critical step is at most the stable step, except where that agrees with a whole number
of thousandths up to the tolerance.  It is then this whole number of thousandths, and larger by little more
than a part in a thousand million at most. -/
theorem criticalStep_le_stableStep {inputs : Inputs} {medium final : AcousticMedium}
    (built : build inputs = .ok medium) (velocities : List Quantity)
    (called : (assignAll velocities medium).2 = final) (number : final.stableStep.isNaN = false)
    (range : final.stableStep.isFinite = true →
      (Scalar.ofNat 1000 * final.stableStep).isFinite = true) :
    if TimeStep.isWhole final.stableStep then
      final.criticalStep = Scalar.nearest (Scalar.ofNat 1000 * final.stableStep) / Scalar.ofNat 1000 ∧
        toReal final.criticalStep ≤ (1 + 1 / 10 ^ 9 + 1 / 10 ^ 15) * toReal final.stableStep
    else final.criticalStep ≤ final.stableStep := by
  obtain ⟨velocity, assembled⟩ := (assembled_of_build built).exists_assignAll velocities
  rw [called] at assembled
  have above := assembled.toReal_stableStep_nonneg
  by_cases finite : final.stableStep.isFinite = true
  · have scaled := range finite
    split
    · rename_i whole
      refine ⟨?_, TimeStep.toReal_truncate_le scaled above⟩
      rw [criticalStep, TimeStep.truncate, TimeStep.thousandths_eq, if_pos whole]
    · rename_i apart
      exact TimeStep.truncate_le scaled above (Bool.eq_false_of_not_eq_true apart)
  · obtain ⟨apart, kept⟩ := TimeStep.truncate_of_infinite (eq_infinity_of_not_isFinite number finite)
    rw [apart, if_neg Bool.false_ne_true]
    exact kept

/-- Velocities for the line of which the last has a stable step between two thousandths. -/
def slowVelocities : List Quantity := [.uniform 4.0, .varying ⟨[3], #v[1.5, 1.6, 1.7]⟩]

/-- Three points without a layer, at a given distance and with one velocity. -/
def rowInputs (step velocity : Float) : Inputs where
  layout := { origin := [0.0], spacing := [step], shape := [3], layer := 0, precision := .double }
  velocity := .uniform velocity
  epsilon := none
  delta := none
  tilt := none
  azimuth := none
  spaceOrder := 2
  grid := none

/-- The line after its velocities, and rows of which the steps are not what one expects, evaluated. -/
theorem steps_evaluated :
    (build lineInputs).toOption.map (fun medium =>
        let final := (assignAll slowVelocities medium).2
        (final.stableStep.isNaN, (Scalar.ofNat 1000 * final.stableStep).isFinite,
          TimeStep.isWhole final.stableStep,
          decide (Scalar.ofNat 1 ≤ Scalar.ofNat 1000 * final.stableStep))) =
        some (false, true, false, true) ∧
      (build (rowInputs 1.0 1.5)).toOption.map (fun medium =>
        (decide (medium.criticalStep = 0.28), decide (medium.criticalStep ≤ medium.stableStep))) =
        some (true, false) ∧
      (build (rowInputs 1e308 1.0)).toOption.map (fun medium =>
        (medium.stableStep.isFinite, decide (medium.criticalStep ≤ medium.stableStep),
          medium.criticalStep.isFinite)) = some (true, false, false) ∧
      (build (rowInputs 1.0 1000.0)).toOption.map (fun medium => decide (0.0 < medium.criticalStep)) =
        some false := by decide +kernel

theorem criticalStep_le_stableStep_line :
    ∃ medium, build lineInputs = .ok medium ∧
      (assignAll slowVelocities medium).2.criticalStep ≤ (assignAll slowVelocities medium).2.stableStep := by
  obtain ⟨medium, built, facts⟩ := exists_of_map_toOption steps_evaluated.1
  obtain ⟨number, finite, apart, _⟩ := by simpa only [Prod.mk.injEq] using facts
  have bound := criticalStep_le_stableStep built slowVelocities rfl number fun _ => finite
  rw [apart, if_neg Bool.false_ne_true] at bound
  exact ⟨medium, built, bound⟩

/-- Just below a whole number of thousandths the critical step is above the stable step, and where a thousand
stable steps are too many for a double it is infinite. -/
theorem not_criticalStep_le_stableStep_rows :
    (∃ medium, build (rowInputs 1.0 1.5) = .ok medium ∧ medium.criticalStep = 0.28 ∧
      ¬ medium.criticalStep ≤ medium.stableStep) ∧
    ∃ medium, build (rowInputs 1e308 1.0) = .ok medium ∧ medium.stableStep.isFinite = true ∧
      ¬ medium.criticalStep ≤ medium.stableStep := by
  constructor
  · obtain ⟨medium, built, facts⟩ := exists_of_map_toOption steps_evaluated.2.1
    obtain ⟨value, above⟩ := Prod.mk.inj facts
    exact ⟨medium, built, of_decide_eq_true value, of_decide_eq_false above⟩
  · obtain ⟨medium, built, facts⟩ := exists_of_map_toOption steps_evaluated.2.2.1
    obtain ⟨finite, above, _⟩ := by simpa only [Prod.mk.injEq] using facts
    exact ⟨medium, built, finite, of_decide_eq_false above⟩

/-! ### Positive critical steps -/

/-- After any calls the critical step is finite and not below zero if a thousand stable steps are finite.
It is above zero exactly if they are one at least, or agree with one up to the tolerance. -/
theorem criticalStep_pos_iff {inputs : Inputs} {medium final : AcousticMedium}
    (built : build inputs = .ok medium) (velocities : List Quantity)
    (called : (assignAll velocities medium).2 = final)
    (scaled : (Scalar.ofNat 1000 * final.stableStep).isFinite = true) :
    final.criticalStep.isFinite = true ∧ 0.0 ≤ final.criticalStep ∧
      (0.0 < final.criticalStep ↔
        Scalar.ofNat 1 ≤ Scalar.ofNat 1000 * final.stableStep ∨
          Scalar.close (Scalar.ofNat 1000 * final.stableStep) (Scalar.ofNat 1) = true) := by
  obtain ⟨velocity, assembled⟩ := (assembled_of_build built).exists_assignAll velocities
  rw [called] at assembled
  have above := assembled.toReal_stableStep_nonneg
  have finite : final.criticalStep.isFinite = true := (TimeStep.truncate_spec scaled above).1
  obtain ⟨zero, zero_value⟩ := zero_spec
  obtain ⟨one, unit⟩ := ofNat_one_spec
  refine ⟨finite, ?_, ?_⟩
  · rw [le_iff_toReal_le zero finite, zero_value]
    exact TimeStep.toReal_truncate_nonneg scaled above
  · rw [lt_iff_toReal_lt zero finite, zero_value, le_iff_toReal_le one scaled, unit]
    exact TimeStep.truncate_pos_iff scaled above

theorem criticalStep_pos_iff_line :
    ∃ medium, build lineInputs = .ok medium ∧
      (assignAll slowVelocities medium).2.criticalStep.isFinite = true ∧
        0.0 < (assignAll slowVelocities medium).2.criticalStep := by
  obtain ⟨medium, built, facts⟩ := exists_of_map_toOption steps_evaluated.1
  obtain ⟨_, scaled, _, long⟩ := by simpa only [Prod.mk.injEq] using facts
  obtain ⟨finite, _, positive⟩ := criticalStep_pos_iff built slowVelocities rfl scaled
  exact ⟨medium, built, finite, positive.mpr (.inl (of_decide_eq_true long))⟩

/-- A fast medium with close points has the critical step zero, and one with points far apart has none that
is finite. -/
theorem not_criticalStep_pos_rows :
    (∃ medium, build (rowInputs 1.0 1000.0) = .ok medium ∧ ¬ 0.0 < medium.criticalStep) ∧
      ∃ medium, build (rowInputs 1e308 1.0) = .ok medium ∧ medium.criticalStep.isFinite = false := by
  constructor
  · obtain ⟨medium, built, vanishing⟩ := exists_of_map_toOption steps_evaluated.2.2.2
    exact ⟨medium, built, of_decide_eq_false vanishing⟩
  · obtain ⟨medium, built, facts⟩ := exists_of_map_toOption steps_evaluated.2.2.1
    obtain ⟨_, _, endless⟩ := by simpa only [Prod.mk.injEq] using facts
    exact ⟨medium, built, endless⟩

end WaveMedium.AcousticMedium
