/-
Module: WaveMedium.Proofs.Acoustic.Scale
Purpose: Which anisotropy the scale of an acoustic medium covers, and what it does to the critical time step.
Main exports:
  Quantity.IsVelocity.largest_spec, AcousticMedium.scale_covers, AcousticMedium.criticalStep_le_isotropic
-/
import Mathlib
import WaveMedium.Proofs.Acoustic.CriticalStep
import WaveMedium.Proofs.Covering

namespace WaveMedium

open Number

/-! ### The largest velocity -/

/-- The largest of several velocities is one of them. -/
theorem Quantity.IsVelocity.largest_spec {velocity : Quantity} (valid : velocity.IsVelocity) :
    0.0 < velocity.largest ∧ velocity.largest.isFinite = true ∧
      velocity.Every fun v => 0.0 < v ∧ v.isFinite = true ∧ v ≤ velocity.largest := by
  cases velocity with
  | uniform value =>
      exact ⟨valid.1, valid.2, valid.1, valid.2, le_self (isNaN_eq_false_of_isFinite valid.2)⟩
  | varying values =>
      obtain ⟨⟨point, inside⟩, every⟩ := valid
      have extreme := values.extreme_largest
      have bounded : ∀ index v, values.get? index = some v →
          0.0 < v ∧ v.isFinite = true ∧ v ≤ values.largest := by
        intro index v found
        obtain ⟨above, finite⟩ := every index v found
        have number := isNaN_eq_false_of_isFinite finite
        refine ⟨above, finite, (le_iff_place number extreme.number).mpr ?_⟩
        exact extreme.bound v (Tensor.mem_cells_iff.mpr ⟨index, found⟩) number
      obtain ⟨above, _, below⟩ := bounded point _ (Tensor.get?_eq_getD inside 0.0)
      have positive := lt_of_lt_of_le above below
      refine ⟨positive, ?_, bounded⟩
      rcases extreme.found with absent | member
      · rw [absent] at positive
        exact absurd positive (by decide)
      · obtain ⟨index, found⟩ := Tensor.mem_cells_iff.mp member
        exact (every index _ found).2

namespace AcousticMedium

/-! ### The scale -/

/-- The scale covers the root of every positive value in a cell of a field that varies. -/
theorem sqrt_le_scaleOf {epsilon : Field} (varies : epsilon.representation = .varying) {index : List Nat}
    {factor : Float} (stored : epsilon.operand.cell? index = some factor) (above : 0.0 < factor) :
    factor.sqrt ≤ scaleOf epsilon := by
  cases epsilon with
  | uniform field => cases varies
  | varying field =>
      have extreme := field.storage.extreme_largest
      have number := (isNaN_eq_false_of_lt above).2
      have below : factor ≤ field.largest := (le_iff_place number extreme.number).mpr
        (extreme.bound factor (Tensor.mem_cells_iff.mpr ⟨index, stored⟩) number)
      have scale : scaleOf (.varying field) = field.largest.sqrt := if_pos (lt_of_lt_of_le above below)
      rw [scale]
      exact root_le (le_of_less above) below

theorem scaleOf_uniform {epsilon : Field} (even : epsilon.representation = .uniform) :
    scaleOf epsilon = 1.0 := by
  cases epsilon with
  | uniform field => rfl
  | varying field => cases even

/-- A factor of at most one has a root of at most one. -/
theorem sqrt_le_one {factor : Float} (above : 0.0 < factor) (small : factor ≤ 1.0) : factor.sqrt ≤ 1.0 :=
  le_of_le_of_le (root_le (le_of_less above) small) (rounds_root_one.mono rounds_one le_rfl)

/-- After any calls, if there is an epsilon per point the scale covers the root of every positive stored
factor.  If there is not, the scale is one, whatever the factor is, and covers the root of a factor of at most
one.  With a covered root no velocity surpasses the product of the scale and the largest velocity. -/
theorem scale_covers {inputs : Inputs} {medium final : AcousticMedium}
    (built : build inputs = .ok medium) (velocities : List Quantity)
    (called : (assignAll velocities medium).2 = final) {index : List Nat} {factor : Float}
    (stored : final.epsilon.operand.cell? index = some factor) (above : 0.0 < factor) :
    (final.epsilon.representation = .varying → factor.sqrt ≤ final.scale) ∧
      (final.epsilon.representation = .uniform →
        final.scale = 1.0 ∧ (factor ≤ 1.0 → factor.sqrt ≤ final.scale)) ∧
      (factor.sqrt ≤ final.scale →
        final.velocity.Every fun v => factor.sqrt * v ≤ final.scale * final.velocity.largest) := by
  obtain ⟨velocity, assembled⟩ := (assembled_of_build built).exists_assignAll velocities
  rw [called] at assembled
  refine ⟨fun varies => ?_, fun even => ?_, fun covered => ?_⟩
  · rw [assembled.scale]
    exact sqrt_le_scaleOf varies stored above
  · have one : final.scale = 1.0 := assembled.scale.trans (scaleOf_uniform even)
    exact ⟨one, fun small => one ▸ sqrt_le_one above small⟩
  · have valid := checkVelocity_eq_ok_iff.mp assembled.valid
    rw [← assembled.velocity] at valid
    obtain ⟨_, finite, every⟩ := valid.largest_spec
    exact every.mono fun v ⟨positive, bounded, below⟩ =>
      product_le (root_nonneg (le_of_less above)) covered bounded positive finite below

/-- Three points in a row with an epsilon. -/
def slantedRow (epsilon : Quantity) : Inputs := { rowInputs 10.0 2.0 with epsilon := some epsilon }

/-- Epsilons per point, of both signs and all negative. -/
def mixedEpsilon : Quantity := .varying ⟨[3], #v[0.1, -0.2, 0.3]⟩
def negativeEpsilon : Quantity := .varying ⟨[3], #v[-0.3, -0.3, -0.3]⟩

/-- The row with and without an epsilon, evaluated. -/
theorem slantedRow_evaluated :
    (build (slantedRow mixedEpsilon)).toOption.map (fun medium =>
        (medium.epsilon.representation, decide (medium.epsilon.largest < 1.0),
          (medium.epsilon.operand.cell? [0]).map fun factor => decide (0.0 < factor))) =
        some (.varying, false, some true) ∧
      (build (slantedRow (.uniform 0.3))).toOption.map (fun medium =>
        (medium.epsilon.operand, medium.scale, decide (Float.sqrt 1.6 ≤ medium.scale))) =
        some (.uniform 1.6, 1.0, false) ∧
      (build (slantedRow negativeEpsilon)).toOption.map (·.criticalStep) = some 3.32 ∧
      (build (rowInputs 10.0 2.0)).toOption.map (·.criticalStep) = some 2.1 := by decide +kernel

theorem scale_covers_mixed :
    ∃ medium factor, build (slantedRow mixedEpsilon) = .ok medium ∧
      medium.epsilon.operand.cell? [0] = some factor ∧ factor.sqrt ≤ medium.scale ∧
      medium.velocity.Every fun v => factor.sqrt * v ≤ medium.scale * medium.velocity.largest := by
  obtain ⟨medium, built, facts⟩ := exists_of_map_toOption slantedRow_evaluated.1
  obtain ⟨varies, _, cell⟩ := by simpa only [Prod.mk.injEq] using facts
  obtain ⟨factor, stored, above⟩ := Option.map_eq_some_iff.mp cell
  obtain ⟨covers, _, bounds⟩ := scale_covers built [] rfl stored (of_decide_eq_true above)
  exact ⟨medium, factor, built, stored, covers varies, bounds (covers varies)⟩

/-- One positive epsilon leaves the scale at one. -/
theorem not_scale_covers_even :
    ∃ medium, build (slantedRow (.uniform 0.3)) = .ok medium ∧
      medium.epsilon.operand = .uniform 1.6 ∧ medium.scale = 1.0 ∧
      ¬ Float.sqrt 1.6 ≤ medium.scale := by
  obtain ⟨medium, built, facts⟩ := exists_of_map_toOption slantedRow_evaluated.2.1
  obtain ⟨stored, scale, apart⟩ := by simpa only [Prod.mk.injEq] using facts
  exact ⟨medium, built, stored, scale, of_decide_eq_false apart⟩

/-! ### With and without anisotropy -/

/-- An epsilon slows a medium down: there is one per point, and the largest stored factor is positive and less
than one. -/
def IsSlow (epsilon : Field) : Prop :=
  epsilon.representation = .varying ∧ 0.0 < epsilon.largest ∧ epsilon.largest < 1.0

/-- The scale is at least one unless the epsilon slows the medium down. -/
theorem one_le_scaleOf {epsilon : Field} (fast : ¬ IsSlow epsilon) : 1.0 ≤ scaleOf epsilon := by
  have one : (1.0 : Float) ≤ 1.0 := rounds_one.mono rounds_one le_rfl
  cases epsilon with
  | uniform field => exact one
  | varying field =>
      unfold scaleOf
      dsimp only
      split
      · rename_i above
        have number : field.largest.isNaN = false := field.storage.extreme_largest.number
        rcases le_or_lt (isNaN_eq_false_of_le one).1 number with large | less
        · exact le_of_le_of_le (rounds_one.mono rounds_root_one le_rfl) (root_le (by decide) large)
        · exact absurd ⟨rfl, above, less⟩ fast
      · exact one

/-- The scale of a medium that is slowed down is positive, and at most one. -/
theorem scaleOf_of_isSlow {epsilon : Field} (slow : IsSlow epsilon) :
    0.0 < scaleOf epsilon ∧ scaleOf epsilon ≤ 1.0 := by
  obtain ⟨varies, above, less⟩ := slow
  cases epsilon with
  | uniform field => cases varies
  | varying field =>
      have scale : scaleOf (.varying field) = field.largest.sqrt := if_pos above
      rw [scale]
      exact ⟨root_pos above, sqrt_le_one above (le_of_less less)⟩

theorem courantNumber_spec (rank : Nat) :
    0.0 < courantNumber rank ∧ (courantNumber rank).isFinite = true ∧ toReal (courantNumber rank) ≤ 1 := by
  have small : 0.0 < courantNumber rank ∧ courantNumber rank ≤ 1.0 := by
    unfold courantNumber
    split
    · decide
    · decide
  have finite := isFinite_of_le_of_le (le_of_less small.1) small.2 zero_spec.1 spans_one.finite
  refine ⟨small.1, finite, ?_⟩
  rw [← toReal_one, ← le_iff_toReal_le finite spans_one.finite]
  exact small.2

/-- The part of the least spacing that a wave may cross in one step. -/
def reach (medium : AcousticMedium) : Float :=
  courantNumber medium.geometry.rank * medium.geometry.leastSpacing

theorem Assembled.reach_spec {inputs : Inputs} {medium : AcousticMedium}
    (assembled : Assembled inputs medium) :
    medium.reach.isFinite = true ∧ (medium.reach = 0.0 ∨ 0.0 < medium.reach) := by
  obtain ⟨finite, positive⟩ := Geometry.leastSpacing_spec assembled.geometry
  obtain ⟨above, bounded, small⟩ := courantNumber_spec medium.geometry.rank
  have size := toReal_pos_of_lt bounded above
  have start : 0.0 < medium.geometry.leastSpacing := by
    rwa [lt_iff_toReal_lt zero_spec.1 finite, zero_spec.2]
  refine ⟨?_, mul_eq_zero_or_lt bounded above finite start⟩
  apply (rounds_mul bounded finite).isFinite_of_abs_le_toReal finite
  rw [abs_mul, abs_of_pos size]
  exact mul_le_of_le_one_left (abs_nonneg _) small

section Steps

variable {reach scale speed : Float} (finite : reach.isFinite = true) (sign : reach = 0.0 ∨ 0.0 < reach)
  (bounded : speed.isFinite = true) (moving : 0.0 < speed)
include finite sign bounded moving

omit finite sign in
theorem unscaled_pos : 0.0 < 1.0 * speed := by
  obtain ⟨kept, same⟩ := one_mul_spec bounded
  rw [lt_iff_toReal_lt zero_spec.1 kept, same, zero_spec.2]
  exact toReal_pos_of_lt bounded moving

omit bounded moving in
theorem reach_nonneg : 0 ≤ toReal reach := by
  rcases sign with rfl | positive
  · exact zero_spec.2.ge
  · exact toReal_nonneg_of_lt positive

/-- A scale of at least one makes no step longer. -/
theorem truncate_scaled_le (large : 1.0 ≤ scale) :
    TimeStep.truncate (reach / (scale * speed)) ≤ TimeStep.truncate (reach / (1.0 * speed)) := by
  have start := reach_nonneg finite sign
  have slower := unscaled_pos bounded moving
  have self := le_self (isNaN_eq_false_of_isFinite bounded)
  have faster : 1.0 * speed ≤ scale * speed := product_le (by decide) large bounded moving bounded self
  apply TimeStep.truncate_mono
  · exact quotient_nonneg finite start (lt_of_lt_of_le slower faster)
  · exact quotient_le finite start slower faster

/-- A scale of at most one makes no step shorter. -/
theorem truncate_le_scaled (positive : 0.0 < scale) (small : scale ≤ 1.0)
    (number : (TimeStep.truncate (reach / (scale * speed))).isNaN = false) :
    TimeStep.truncate (reach / (1.0 * speed)) ≤ TimeStep.truncate (reach / (scale * speed)) := by
  have start := reach_nonneg finite sign
  have faster := unscaled_pos bounded moving
  have self := le_self (isNaN_eq_false_of_isFinite bounded)
  have slower : scale * speed ≤ 1.0 * speed :=
    product_le (le_of_less positive) small bounded moving bounded self
  apply TimeStep.truncate_mono
  · exact quotient_nonneg finite start faster
  · have divisor := mul_eq_zero_or_lt (isFinite_of_le_of_le (le_of_less positive) small zero_spec.1
      spans_one.finite) positive bounded moving
    rcases sign with rfl | above
    · rcases divisor with zero | apart
      · rw [zero, TimeStep.truncate_of_undefined] at number
        cases number
      · exact quotient_le finite start apart slower
    · exact quotient_le_of_lt finite above divisor (.inr faster) slower

end Steps

/-- A medium with an epsilon has no longer a critical step than the medium without it, unless the epsilon
slows it down.  Then its scale is at most one, and its critical step, if it is a number, no shorter than that
of the medium without epsilon. -/
theorem criticalStep_le_isotropic {inputs : Inputs} {medium isotropic : AcousticMedium}
    (built : build inputs = .ok medium) (plain : build { inputs with epsilon := none } = .ok isotropic) :
    (¬ IsSlow medium.epsilon → medium.criticalStep ≤ isotropic.criticalStep) ∧
      (IsSlow medium.epsilon → medium.scale ≤ 1.0 ∧
        (medium.criticalStep.isNaN = false → isotropic.criticalStep ≤ medium.criticalStep)) := by
  have assembled := assembled_of_build built
  have other := assembled_of_build plain
  have geometry : isotropic.geometry = medium.geometry :=
    Except.ok.inj (other.geometry.symm.trans assembled.geometry)
  have velocity : isotropic.velocity = medium.velocity := other.velocity.trans assembled.velocity.symm
  have scale : isotropic.scale = 1.0 := by
    rw [other.scale, ← Except.ok.inj other.epsilon]
    rfl
  have step : isotropic.criticalStep = TimeStep.truncate (medium.reach / (1.0 * medium.velocity.largest)) := by
    rw [criticalStep, stableStep, geometry, velocity, scale, reach]
  have valid := checkVelocity_eq_ok_iff.mp assembled.valid
  rw [← assembled.velocity] at valid
  obtain ⟨moving, bounded, _⟩ := valid.largest_spec
  obtain ⟨finite, sign⟩ := assembled.reach_spec
  rw [step, assembled.scale]
  refine ⟨fun fast => ?_, fun slow => ?_⟩
  · rw [criticalStep, stableStep, assembled.scale]
    exact truncate_scaled_le finite sign bounded moving (one_le_scaleOf fast)
  · obtain ⟨positive, small⟩ := scaleOf_of_isSlow slow
    refine ⟨small, fun number => ?_⟩
    rw [criticalStep, stableStep, assembled.scale] at number ⊢
    exact truncate_le_scaled finite sign bounded moving positive small number

theorem criticalStep_le_isotropic_mixed :
    ∃ medium isotropic, build (slantedRow mixedEpsilon) = .ok medium ∧
      build { slantedRow mixedEpsilon with epsilon := none } = .ok isotropic ∧
      medium.criticalStep ≤ isotropic.criticalStep := by
  obtain ⟨medium, built, facts⟩ := exists_of_map_toOption slantedRow_evaluated.1
  obtain ⟨_, large, _⟩ := by simpa only [Prod.mk.injEq] using facts
  obtain ⟨isotropic, plain, _⟩ := exists_of_map_toOption slantedRow_evaluated.2.2.2
  have fast : ¬ IsSlow medium.epsilon := fun slow => of_decide_eq_false large slow.2.2
  exact ⟨medium, isotropic, built, plain, (criticalStep_le_isotropic built plain).1 fast⟩

/-- A negative epsilon at every point makes the critical step longer than it is without epsilon. -/
theorem not_criticalStep_le_isotropic_negative :
    ∃ medium isotropic, build (slantedRow negativeEpsilon) = .ok medium ∧
      build (rowInputs 10.0 2.0) = .ok isotropic ∧ medium.criticalStep = 3.32 ∧
      isotropic.criticalStep = 2.1 ∧ ¬ medium.criticalStep ≤ isotropic.criticalStep := by
  obtain ⟨medium, built, long⟩ := exists_of_map_toOption slantedRow_evaluated.2.2.1
  obtain ⟨isotropic, plain, short⟩ := exists_of_map_toOption slantedRow_evaluated.2.2.2
  refine ⟨medium, isotropic, built, plain, long, short, ?_⟩
  rw [long, short]
  decide

end AcousticMedium

end WaveMedium
