/-
Module: WaveMedium.Proofs.Number.Agreement
Purpose: How far apart doubles are that agree up to the tolerance.
Main exports:
  isFinite_of_close, close_iff, close_of_toReal_eq, abs_sub_le_of_close
-/
import Mathlib
import WaveMedium.Proofs.Number.Monotone

namespace WaveMedium.Number

/-! ### Literals -/

theorem ofNat_one_spec : Float.isFinite (Scalar.ofNat 1) = true ∧ toReal (Scalar.ofNat 1) = 1 := by
  have parts : Binary.ofFloat (Scalar.ofNat 1) = .finite false 4503599627370496 (-52) := by decide
  obtain ⟨finite, value⟩ := spec_of_parts parts
  refine ⟨finite, value.trans ?_⟩
  norm_num

theorem ofNat_thousand_spec :
    Float.isFinite (Scalar.ofNat 1000) = true ∧ toReal (Scalar.ofNat 1000) = 1000 := by
  have parts : Binary.ofFloat (Scalar.ofNat 1000) = .finite false 8796093022208000 (-43) := by decide
  obtain ⟨finite, value⟩ := spec_of_parts parts
  refine ⟨finite, value.trans ?_⟩
  norm_num

/-- The double nearest to one part in a thousand million is a little larger. -/
theorem tolerance_spec :
    Float.isFinite (Scalar.ofDecimal 1 9) = true ∧
      toReal (Scalar.ofDecimal 1 9) = 4835703278458517 / 2 ^ 82 := by
  have parts : Binary.ofFloat (Scalar.ofDecimal 1 9) = .finite false 4835703278458517 (-82) := by decide
  obtain ⟨finite, value⟩ := spec_of_parts parts
  refine ⟨finite, value.trans ?_⟩
  rw [zpow_neg, div_eq_mul_inv]
  norm_num

/-! ### Agreement of two numbers -/

/-- By how much a double may differ from a finite one to agree with it. -/
theorem tolerance_of_isFinite {b : Float} (finite : b.isFinite = true) :
    (Scalar.ofDecimal 1 9 * larger b.abs (Scalar.ofNat 1)).isFinite = true ∧
      toReal (Scalar.ofDecimal 1 9 * larger b.abs (Scalar.ofNat 1)) =
        Format.double.rounded (4835703278458517 / 2 ^ 82 * max |toReal b| 1) := by
  obtain ⟨least, one⟩ := ofNat_one_spec
  obtain ⟨bounded, absolute⟩ := abs_spec finite
  obtain ⟨whole, scale⟩ := larger_spec bounded least
  rw [absolute, one] at scale
  obtain ⟨small, factor⟩ := tolerance_spec
  have rounds := rounds_mul small whole
  rw [factor, scale] at rounds
  have product : (Scalar.ofDecimal 1 9 * larger b.abs (Scalar.ofNat 1)).isFinite = true := by
    apply rounds.isFinite_of_abs_le_toReal whole
    have positive : 0 ≤ max |toReal b| 1 := (abs_nonneg _).trans (le_max_left _ _)
    rw [scale, abs_mul]
    exact mul_le_of_le_one_left (abs_nonneg _) (by norm_num)
  exact ⟨product, rounds.toReal_eq product⟩

theorem abs_infinity : positiveInfinity.abs = positiveInfinity ∧ negativeInfinity.abs = positiveInfinity := by
  decide

/-- What agrees with a finite number is finite, and so is the distance of the two. -/
theorem isFinite_of_close {a b : Float} (right : b.isFinite = true) (close : Scalar.close a b = true) :
    a.isFinite = true ∧ (a - b).isFinite = true := by
  obtain ⟨bounded, _⟩ := tolerance_of_isFinite right
  have within : (a - b).abs ≤ Scalar.ofDecimal 1 9 * larger b.abs (Scalar.ofNat 1) :=
    of_decide_eq_true close
  have apart : (a - b).isFinite = true := by
    by_contra endless
    have far : (a - b).abs = positiveInfinity := by
      cases number : (a - b).isNaN with
      | false =>
          rcases eq_infinity_of_not_isFinite number endless with same | same
          · rw [same, abs_infinity.1]
          · rw [same, abs_infinity.2]
      | true =>
          rw [Float.isNaN_eq_decide_eq_nan, decide_eq_true_iff] at number
          rw [number] at within
          exact absurd (isNaN_eq_false_of_le within).1 (by decide)
    rw [far] at within
    rw [eq_positiveInfinity_of_le within] at bounded
    exact absurd bounded (by decide)
  exact ⟨isFinite_of_sub apart, apart⟩

section Close

variable {a b : Float} (left : a.isFinite = true) (right : b.isFinite = true)
  (apart : (a - b).isFinite = true)
include left right apart

/-- By how much two doubles may differ to agree. -/
theorem close_iff :
    Scalar.close a b = true ↔
      |Format.double.rounded (toReal a - toReal b)| ≤
        Format.double.rounded (4835703278458517 / 2 ^ 82 * max |toReal b| 1) := by
  obtain ⟨size, difference⟩ := abs_spec apart
  rw [(rounds_sub left right).toReal_eq apart] at difference
  obtain ⟨bounded, tolerance⟩ := tolerance_of_isFinite right
  rw [← difference, ← tolerance, ← le_iff_toReal_le size bounded]
  exact decide_eq_true_iff

/-- Doubles that stand for the same number agree. -/
theorem close_of_toReal_eq (same : toReal a = toReal b) : Scalar.close a b = true := by
  rw [close_iff left right apart, same, sub_self, Format.rounded_zero, abs_zero]
  exact Format.rounded_nonneg _ (by positivity)

/-- Numbers that agree differ by little more than a part in a thousand million. -/
theorem abs_sub_le_of_close (close : Scalar.close a b = true) :
    |toReal a - toReal b| ≤ (1 / 10 ^ 9 + 1 / 10 ^ 24) * max |toReal b| 1 := by
  rw [close_iff left right apart] at close
  have scale : (1 : ℝ) ≤ max |toReal b| 1 := le_max_right _ _
  generalize toReal a - toReal b = d at *
  generalize max |toReal b| 1 = M at *
  have one := Format.abs_double_rounded_sub_le d
  have two := Format.abs_double_rounded_sub_le (4835703278458517 / 2 ^ 82 * M)
  have size : |4835703278458517 / 2 ^ 82 * M| = 4835703278458517 / 2 ^ 82 * M := abs_of_nonneg (by positivity)
  have back : |d| ≤ |Format.double.rounded d| + |Format.double.rounded d - d| := by
    have triangle := abs_sub (Format.double.rounded d) (Format.double.rounded d - d)
    rwa [sub_sub_cancel] at triangle
  have upper := (abs_le.mp two).2
  rw [size] at upper
  linarith

end Close

end WaveMedium.Number
