/-
Module: WaveMedium.Proofs.Acoustic.Slowness
Purpose: For which velocities the squared slowness that is stored is finite, and for which it is positive.
Main exports:
  Precision.slowest, Precision.fastest, AcousticMedium.storedSlowness_anti, AcousticMedium.slowness_range
-/
import Mathlib
import WaveMedium.Proofs.Acoustic.CriticalStep
import WaveMedium.Proofs.Covering
import WaveMedium.Proofs.Number.Monotone

namespace WaveMedium

open Number

/-! ### The range of velocities -/

/-- The least velocity whose squared slowness can be stored in a precision. -/
def Precision.slowest : Precision → Float
  | .single => 5.421010943206881e-20
  | .double => 7.458340731200208e-155

/-- The largest velocity whose squared slowness is not lost in a precision. -/
def Precision.fastest : Precision → Float
  | .single => 3.7778931862957158e22
  | .double => 1.3407807929942596e154

namespace AcousticMedium

/-- What is stored for a velocity in a precision. -/
def storedSlowness (precision : Precision) (velocity : Float) : Float :=
  precision.cast (slownessSquared velocity)

/-- Of two velocities the larger has the smaller squared slowness, and stores it. -/
theorem storedSlowness_anti (precision : Precision) {slow fast : Float} (above : 0.0 < slow)
    (le : slow ≤ fast) (finite : fast.isFinite = true) :
    storedSlowness precision fast ≤ storedSlowness precision slow := by
  have least := isFinite_of_le_of_le (le_of_less above) le zero_spec.1 finite
  have beyond := lt_of_lt_of_le above le
  have squares : slow * slow ≤ fast * fast := product_le (le_of_less above) le least above finite le
  exact cast_mono precision (quotient_le_of_lt (by decide) (by decide)
    (mul_eq_zero_or_lt least above least above) (mul_eq_zero_or_lt finite beyond finite beyond) squares)

set_option maxRecDepth 4000 in
/-- The slowest velocity stores a finite value, and the double before it infinity. -/
theorem exists_before_slowest (precision : Precision) :
    ∃ before : Float, before.isFinite = true ∧ place precision.slowest = place before + 1 ∧
      storedSlowness precision before = positiveInfinity ∧ 0.0 < precision.slowest ∧
      (storedSlowness precision precision.slowest).isFinite = true := by
  cases precision with
  | single => exact ⟨5.42101094320688e-20, by decide⟩
  | double => exact ⟨7.458340731200207e-155, by decide⟩

set_option maxRecDepth 4000 in
/-- The fastest velocity stores a positive value, and the double after it zero. -/
theorem exists_after_fastest (precision : Precision) :
    ∃ after : Float, 0.0 < after ∧ after.isFinite = true ∧ place after = place precision.fastest + 1 ∧
      storedSlowness precision after = 0.0 ∧ precision.fastest.isFinite = true ∧
      0.0 < storedSlowness precision precision.fastest := by
  cases precision with
  | single => exact ⟨3.777893186295716e22, by decide +kernel⟩
  | double => exact ⟨1.3407807929942597e154, by decide⟩

section Stored

variable (precision : Precision) {velocity : Float} (above : 0.0 < velocity)
  (finite : velocity.isFinite = true)
include above finite

theorem storedSlowness_nonneg : 0.0 ≤ storedSlowness precision velocity := by
  have square := mul_eq_zero_or_lt finite above finite above
  have start : precision.cast 0.0 ≤ storedSlowness precision velocity :=
    cast_mono precision (quotient_nonneg_of_lt (by decide) (by decide) square)
  rwa [(cast_absent precision).2] at start

/-- What is stored is finite from the slowest velocity on. -/
theorem isFinite_storedSlowness_iff :
    (storedSlowness precision velocity).isFinite = true ↔ precision.slowest ≤ velocity := by
  obtain ⟨before, bounded, next, endless, positive, stored⟩ := exists_before_slowest precision
  constructor
  · intro kept
    have number := (isNaN_eq_false_of_lt positive).2
    rcases le_or_lt number (isNaN_eq_false_of_isFinite finite) with le | less
    · exact le
    · have slow := le_of_lt_succ (isNaN_eq_false_of_isFinite bounded) next less
      have anti := storedSlowness_anti precision above slow bounded
      rw [endless] at anti
      rw [eq_positiveInfinity_of_le anti, positiveInfinity_spec.2.2] at kept
      cases kept
  · intro le
    have anti := storedSlowness_anti precision positive le finite
    exact isFinite_of_le_of_le (storedSlowness_nonneg precision above finite) anti zero_spec.1 stored

/-- What is stored is positive up to the fastest velocity. -/
theorem storedSlowness_pos_iff :
    0.0 < storedSlowness precision velocity ↔ velocity ≤ precision.fastest := by
  obtain ⟨after, beyond, bounded, next, vanishes, whole, stored⟩ := exists_after_fastest precision
  constructor
  · intro kept
    rcases le_or_lt (isNaN_eq_false_of_isFinite finite) (isNaN_eq_false_of_isFinite whole) with le | less
    · exact le
    · have fast := succ_le_of_lt (isNaN_eq_false_of_isFinite bounded) next less
      have anti := storedSlowness_anti precision beyond fast finite
      rw [vanishes] at anti
      exact absurd anti (not_le_of_lt kept)
  · intro le
    exact lt_of_lt_of_le stored (storedSlowness_anti precision above le whole)

end Stored

/-! ### What is stored after any calls -/

/-- A cell of the stored squared slowness has what is stored for the velocity at the nearest point. -/
theorem Assembled.exists_velocityAt {inputs : Inputs} {medium : AcousticMedium}
    (assembled : Assembled inputs medium) {index : List Nat} {value : Float}
    (stored : medium.squaredSlowness.operand.cell? index = some value) :
    value = storedSlowness medium.geometry.grid.precision
        (medium.velocity.valueAt (inputs.layout.nearestPoint inputs.spaceOrder index)) ∧
      0.0 < medium.velocity.valueAt (inputs.layout.nearestPoint inputs.spaceOrder index) ∧
      (medium.velocity.valueAt
        (inputs.layout.nearestPoint inputs.spaceOrder index)).isFinite = true := by
  have holds := assembled.fits.holds_field assembled.slowness
  have valid := checkVelocity_eq_ok_iff.mp assembled.valid
  rw [assembled.velocity]
  cases velocity : inputs.velocity with
  | uniform v =>
      rw [velocity] at holds valid
      rw [show medium.squaredSlowness = .uniform _ from holds] at stored
      cases stored
      exact ⟨rfl, valid⟩
  | varying values =>
      rw [velocity] at holds valid
      obtain ⟨field, varying, _, cells⟩ := holds
      rw [varying] at stored
      obtain ⟨v, found, cell⟩ := cells index (Tensor.inBox_of_get? stored)
      have same : (Quantity.varying values).valueAt
          (inputs.layout.nearestPoint inputs.spaceOrder index) = v := Tensor.getD_eq found 0.0
      rw [same]
      exact ⟨Option.some.inj (stored.symm.trans cell), valid.2 _ v found⟩

/-- After any calls every stored value of the squared slowness is finite exactly if the velocity at the
nearest point is at least the slowest of the precision, and positive exactly if that velocity is at most the
fastest. -/
theorem slowness_range {inputs : Inputs} {medium final : AcousticMedium}
    (built : build inputs = .ok medium) (velocities : List Quantity)
    (called : (assignAll velocities medium).2 = final) {index : List Nat} {value : Float}
    (stored : final.squaredSlowness.operand.cell? index = some value) :
    let precision := final.geometry.grid.precision
    let velocity := final.velocity.valueAt (inputs.layout.nearestPoint inputs.spaceOrder index)
    (value.isFinite = true ↔ precision.slowest ≤ velocity) ∧
      (0.0 < value ↔ velocity ≤ precision.fastest) := by
  obtain ⟨velocity, assembled⟩ := (assembled_of_build built).exists_assignAll velocities
  rw [called] at assembled
  obtain ⟨rfl, above, finite⟩ := assembled.exists_velocityAt stored
  exact ⟨isFinite_storedSlowness_iff _ above finite, storedSlowness_pos_iff _ above finite⟩

/-- Velocities for the line from the slowest to the fastest of its precision. -/
def edgeVelocities : List Quantity := [.varying ⟨[3], #v[5.421010943206881e-20, 1.0, 3.7778931862957158e22]⟩]

/-- The line from the slowest to the fastest velocity, and rows beyond them, evaluated. -/
theorem edges_evaluated :
    (build lineInputs).toOption.map (fun medium =>
        let final := (assignAll edgeVelocities medium).2
        let precision := final.geometry.grid.precision
        [0, 10].map fun i =>
          let velocity := final.velocity.valueAt (lineInputs.layout.nearestPoint 2 [i])
          ((final.squaredSlowness.operand.cell? [i]).isSome,
            decide (precision.slowest ≤ velocity ∧ velocity ≤ precision.fastest))) =
        some [(true, true), (true, true)] ∧
      (build (rowInputs 1.0 1e200)).toOption.map (·.squaredSlowness.operand) = some (.uniform 0.0) ∧
      (build (rowInputs 1.0 1e-200)).toOption.map (·.squaredSlowness.operand) =
        some (.uniform positiveInfinity) := by decide +kernel

theorem slowness_range_line :
    ∃ medium first last, build lineInputs = .ok medium ∧
      (assignAll edgeVelocities medium).2.squaredSlowness.operand.cell? [0] = some first ∧
      (assignAll edgeVelocities medium).2.squaredSlowness.operand.cell? [10] = some last ∧
      (first.isFinite = true ∧ 0.0 < first) ∧ (last.isFinite = true ∧ 0.0 < last) := by
  obtain ⟨medium, built, facts⟩ := exists_of_map_toOption edges_evaluated.1
  simp only [List.map_cons, List.map_nil, List.cons.injEq, Prod.mk.injEq, and_true,
    Option.isSome_iff_exists, decide_eq_true_iff] at facts
  obtain ⟨⟨⟨first, left⟩, slow⟩, ⟨last, right⟩, fast⟩ := facts
  have start := slowness_range built edgeVelocities rfl left
  have stop := slowness_range built edgeVelocities rfl right
  exact ⟨medium, first, last, built, left, right, ⟨start.1.mpr slow.1, start.2.mpr slow.2⟩,
    stop.1.mpr fast.1, stop.2.mpr fast.2⟩

/-- The squared slowness of a huge velocity is zero, and that of a tiny one is infinity. -/
theorem not_slowness_range_rows :
    (∃ medium, build (rowInputs 1.0 1e200) = .ok medium ∧
      medium.squaredSlowness.operand = .uniform 0.0) ∧
    ∃ medium, build (rowInputs 1.0 1e-200) = .ok medium ∧
      medium.squaredSlowness.operand = .uniform positiveInfinity :=
  ⟨exists_of_map_toOption edges_evaluated.2.1, exists_of_map_toOption edges_evaluated.2.2⟩

end AcousticMedium

end WaveMedium
