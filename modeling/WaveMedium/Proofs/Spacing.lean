/-
Module: WaveMedium.Proofs.Spacing
Purpose: The least spacing of a medium is one of its spacings, positive and finite.
Main exports:
  Geometry.leastSpacing_spec
-/
import Mathlib
import WaveMedium.Proofs.Geometry
import WaveMedium.Proofs.Number.Nearest
import WaveMedium.Proofs.Tensor.Extrema

namespace WaveMedium

open Number

namespace Number

theorem ofNat_zero_spec : Float.isFinite (Scalar.ofNat 0) = true ∧ toReal (Scalar.ofNat 0) = 0 := by
  have parts : Binary.ofFloat (Scalar.ofNat 0) = .finite false 0 (-1074) := by decide
  simpa using spec_of_parts parts

end Number

theorem Layout.toReal_pos_of_badStep {step : Float} (sound : badStep step = false) :
    step.isFinite = true ∧ 0 < toReal step := by
  obtain ⟨zero, value⟩ := ofNat_zero_spec
  simp only [badStep, Bool.or_eq_false_iff, Bool.not_eq_false'] at sound
  obtain ⟨above, finite⟩ := sound
  refine ⟨finite, ?_⟩
  have notBelow : ¬ step ≤ Scalar.ofNat 0 := of_decide_eq_false above
  rwa [le_iff_toReal_le finite zero, value, not_le] at notBelow

namespace Geometry

variable {layout : Layout Float} {supplied : Option (Grid Float)} {geometry : Geometry Float}

/-- The spacings of a medium are positive and finite. -/
theorem toReal_spacing_pos (built : Geometry.new layout supplied = .ok geometry) :
    ∀ step ∈ geometry.spacing, step.isFinite = true ∧ 0 < toReal step := by
  have fits := fits_of_new built
  obtain ⟨⟨⟩, valid, _⟩ := exists_of_bind_eq_ok built
  have sound := (Layout.validate_eq_ok_iff.mp valid).2.2.2
  intro step member
  rw [fits.spacing] at member
  exact Layout.toReal_pos_of_badStep (Bool.eq_false_of_not_eq_true (List.any_eq_false.mp sound step member))

/-- The least spacing is one of the spacings. -/
theorem leastSpacing_mem (built : Geometry.new layout supplied = .ok geometry) :
    geometry.leastSpacing ∈ geometry.spacing := by
  have fits := fits_of_new built
  have extreme : Extreme (fun x => -place x) positiveInfinity geometry.spacing geometry.leastSpacing :=
    prefers_smaller.selects.extreme_foldl positiveInfinity_spec.2.1 _
  rcases extreme.found with endless | member
  · have axes : 0 < geometry.spacing.length := by
      rw [length_spacing_of_new built]
      exact List.length_pos_iff.mpr fits.someAxes
    obtain ⟨step, member⟩ := List.exists_mem_of_length_pos axes
    have finite := (toReal_spacing_pos built step member).1
    have bound := extreme.bound step member (isNaN_eq_false_of_isFinite finite)
    have below := (place_bounds_of_isFinite finite).2
    rw [endless, positiveInfinity_spec.1] at bound
    omega
  · exact member

theorem leastSpacing_spec (built : Geometry.new layout supplied = .ok geometry) :
    geometry.leastSpacing.isFinite = true ∧ 0 < toReal geometry.leastSpacing :=
  toReal_spacing_pos built _ (leastSpacing_mem built)

end Geometry

end WaveMedium
