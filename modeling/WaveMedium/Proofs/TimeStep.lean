/-
Module: WaveMedium.Proofs.TimeStep
Purpose: What truncation to thousandths does to a time step.
Main exports:
  TimeStep.isWhole, TimeStep.truncate_le, TimeStep.toReal_truncate_le, TimeStep.truncate_spec,
  TimeStep.truncate_pos_iff, TimeStep.truncate_mono
-/
import Mathlib
import WaveMedium.Proofs.Number.Agreement
import WaveMedium.Proofs.Number.Monotone
import WaveMedium.TimeStep

namespace WaveMedium

open Number

namespace TimeStep

/-- Whether a time step agrees with a whole number of thousandths up to the tolerance. -/
def isWhole (step : Float) : Bool :=
  Scalar.close (Scalar.ofNat 1000 * step) (Scalar.nearest (Scalar.ofNat 1000 * step))

theorem thousandths_eq (step : Float) :
    thousandths step =
      if isWhole step then Scalar.nearest (Scalar.ofNat 1000 * step)
      else Scalar.floor (Scalar.ofNat 1000 * step) := rfl

/-- An infinite step stays infinite, and does not count as whole. -/
theorem truncate_of_infinite {step : Float} (infinite : step = positiveInfinity ∨ step = negativeInfinity) :
    isWhole step = false ∧ truncate step ≤ step := by
  rcases infinite with rfl | rfl
  · decide
  · decide

set_option maxRecDepth 1000 in
/-- An undefined step stays undefined. -/
theorem truncate_of_undefined : (truncate (0.0 / 0.0)).isNaN = true := by decide

section Finite

variable {step : Float} (scaled : (Scalar.ofNat 1000 * step).isFinite = true) (above : 0 ≤ toReal step)
include scaled

theorem toReal_scaled : toReal (Scalar.ofNat 1000 * step) = Format.double.rounded (1000 * toReal step) := by
  obtain ⟨finite, value⟩ := ofNat_thousand_spec
  rw [← value]
  exact (rounds_mul finite (isFinite_of_mul scaled).2).toReal_eq scaled

include above

theorem toReal_scaled_nonneg : 0 ≤ toReal (Scalar.ofNat 1000 * step) := by
  rw [toReal_scaled scaled]
  exact Format.rounded_nonneg _ (by positivity)

/-- The whole number of thousandths. -/
theorem thousandths_spec :
    (thousandths step).isFinite = true ∧
      toReal (thousandths step) =
        if isWhole step then ⌊toReal (Scalar.ofNat 1000 * step) + 1 / 2⌋₊
        else ⌊toReal (Scalar.ofNat 1000 * step)⌋₊ := by
  have start := toReal_scaled_nonneg scaled above
  rw [thousandths_eq]
  split
  · exact nearest_spec scaled start
  · exact floor_spec scaled start

theorem thousandths_nonneg : 0 ≤ toReal (thousandths step) := by
  rw [(thousandths_spec scaled above).2]
  split <;> exact Nat.cast_nonneg _

theorem truncate_spec :
    (truncate step).isFinite = true ∧
      toReal (truncate step) = Format.double.rounded (toReal (thousandths step) / 1000) := by
  obtain ⟨whole, _⟩ := thousandths_spec scaled above
  obtain ⟨finite, value⟩ := ofNat_thousand_spec
  have rounds := rounds_div whole finite (by rw [value]; norm_num)
  rw [value] at rounds
  have bounded : (truncate step).isFinite = true := by
    apply rounds.isFinite_of_abs_le_toReal whole
    rw [abs_div, abs_of_nonneg (show (0 : ℝ) ≤ 1000 by norm_num)]
    exact div_le_self (abs_nonneg _) (by norm_num)
  exact ⟨bounded, rounds.toReal_eq bounded⟩

theorem toReal_truncate_nonneg : 0 ≤ toReal (truncate step) := by
  rw [(truncate_spec scaled above).2]
  exact Format.rounded_nonneg _ (div_nonneg (thousandths_nonneg scaled above) (by norm_num))

/-- The distance of a scaled step from the nearest whole number is finite. -/
theorem isFinite_distance :
    (Scalar.ofNat 1000 * step - Scalar.nearest (Scalar.ofNat 1000 * step)).isFinite = true := by
  have start := toReal_scaled_nonneg scaled above
  obtain ⟨finite, value⟩ := nearest_spec scaled start
  have rounds := rounds_sub scaled finite
  have lower := Nat.floor_le (show 0 ≤ toReal (Scalar.ofNat 1000 * step) + 1 / 2 by positivity)
  have upper := Nat.lt_floor_add_one (toReal (Scalar.ofNat 1000 * step) + 1 / 2)
  apply rounds.isFinite_of_abs_le (n := 0) (by decide) (by decide)
  rw [value, zpow_zero, abs_le]
  constructor <;> linarith

/-- A step that does not agree with a whole number of thousandths is not raised. -/
theorem truncate_le (apart : isWhole step = false) : truncate step ≤ step := by
  have start := toReal_scaled_nonneg scaled above
  have finite := (isFinite_of_mul scaled).2
  obtain ⟨whole, count⟩ := thousandths_spec scaled above
  obtain ⟨bounded, value⟩ := truncate_spec scaled above
  rw [le_iff_toReal_le bounded finite, value, ← rounded_toReal finite]
  apply Format.rounded_mono
  rw [apart, if_neg Bool.false_ne_true] at count
  by_contra! less
  -- A whole number above the exact product is one that the rounded product reaches.
  have most : toReal (Scalar.ofNat 1000 * step) ≤ toReal (thousandths step) := by
    rw [toReal_scaled scaled, ← rounded_toReal whole]
    apply Format.rounded_mono
    linarith
  have same : toReal (Scalar.ofNat 1000 * step) = toReal (thousandths step) :=
    le_antisymm most (count.trans_le (Nat.floor_le start))
  have agrees : isWhole step = true := by
    obtain ⟨finite, value⟩ := nearest_spec scaled start
    apply close_of_toReal_eq scaled finite (isFinite_distance scaled above)
    rw [value, same.trans count, floor_natCast_add_half]
  rw [apart] at agrees
  cases agrees

/-- A step is raised by little more than a part in a thousand million at most. -/
theorem toReal_truncate_le :
    toReal (truncate step) ≤ (1 + 1 / 10 ^ 9 + 1 / 10 ^ 15) * toReal step := by
  have start := toReal_scaled_nonneg scaled above
  obtain ⟨bounded, value⟩ := truncate_spec scaled above
  cases agrees : isWhole step with
  | false =>
      have kept := truncate_le scaled above agrees
      rw [le_iff_toReal_le bounded (isFinite_of_mul scaled).2] at kept
      linarith
  | true =>
      obtain ⟨whole, count⟩ := nearest_spec scaled start
      have near := abs_sub_le_of_close scaled whole (isFinite_distance scaled above) agrees
      have scale := toReal_scaled scaled
      rw [value, thousandths_eq, if_pos agrees]
      rw [count, Nat.abs_cast] at near
      rw [count]
      generalize toReal (Scalar.ofNat 1000 * step) = s at *
      generalize ⌊s + 1 / 2⌋₊ = n at *
      rcases n.eq_zero_or_pos with rfl | nonzero
      · rw [Nat.cast_zero, zero_div, Format.rounded_zero]
        positivity
      · have one : (1 : ℝ) ≤ n := Nat.one_le_cast.mpr nonzero
        rw [max_eq_left one] at near
        have lower := (abs_le.mp near).1
        have up := (abs_le.mp (Format.abs_double_rounded_sub_le (1000 * toReal step))).2
        have down := (abs_le.mp (Format.abs_double_rounded_sub_le ((n : ℝ) / 1000))).2
        rw [← scale, abs_of_nonneg (by positivity)] at up
        rw [abs_of_nonneg (by positivity)] at down
        linarith

/-! ### Steps that are not lost -/

theorem isFinite_sub_one (less : toReal (Scalar.ofNat 1000 * step) < 1) :
    (Scalar.ofNat 1000 * step - Scalar.ofNat 1).isFinite = true := by
  have start := toReal_scaled_nonneg scaled above
  obtain ⟨finite, value⟩ := ofNat_one_spec
  apply (rounds_sub scaled finite).isFinite_of_abs_le (n := 0) (by decide) (by decide)
  rw [value, zpow_zero, abs_le]
  constructor <;> linarith

/-- A scaled step that agrees with one is more than a half. -/
theorem half_lt_of_close_one (less : toReal (Scalar.ofNat 1000 * step) < 1)
    (close : Scalar.close (Scalar.ofNat 1000 * step) (Scalar.ofNat 1) = true) :
    1 / 2 < toReal (Scalar.ofNat 1000 * step) := by
  obtain ⟨finite, value⟩ := ofNat_one_spec
  have near := abs_sub_le_of_close scaled finite (isFinite_sub_one scaled above less) close
  rw [value, abs_one, max_self] at near
  linarith [(abs_le.mp near).1]

/-- Between a half and one a scaled step agrees with a whole number exactly if it agrees with one. -/
theorem isWhole_iff_close_one (half : 1 / 2 ≤ toReal (Scalar.ofNat 1000 * step))
    (less : toReal (Scalar.ofNat 1000 * step) < 1) :
    isWhole step = true ↔ Scalar.close (Scalar.ofNat 1000 * step) (Scalar.ofNat 1) = true := by
  have start := toReal_scaled_nonneg scaled above
  obtain ⟨whole, count⟩ := nearest_spec scaled start
  obtain ⟨finite, value⟩ := ofNat_one_spec
  have one : ⌊toReal (Scalar.ofNat 1000 * step) + 1 / 2⌋₊ = 1 := by
    rw [Nat.floor_eq_iff (by positivity)]
    push_cast
    constructor <;> linarith
  rw [one, Nat.cast_one] at count
  rw [isWhole, close_iff scaled whole (isFinite_distance scaled above),
    close_iff scaled finite (isFinite_sub_one scaled above less), count, value]

/-- A step is truncated to a positive one exactly if it has a thousandth, or agrees with one. -/
theorem truncate_pos_iff :
    0 < toReal (truncate step) ↔
      1 ≤ toReal (Scalar.ofNat 1000 * step) ∨
        Scalar.close (Scalar.ofNat 1000 * step) (Scalar.ofNat 1) = true := by
  have start := toReal_scaled_nonneg scaled above
  obtain ⟨_, count⟩ := thousandths_spec scaled above
  rw [(truncate_spec scaled above).2, count]
  have positive_iff : ∀ n : ℕ, 0 < Format.double.rounded ((n : ℝ) / 1000) ↔ 1 ≤ n := by
    intro n
    rcases n.eq_zero_or_pos with rfl | positive
    · simp
    · have least : (2 : ℝ) ^ (-10 : ℤ) ≤ n / 1000 := by
        have one : (1 : ℝ) ≤ n := Nat.one_le_cast.mpr positive
        rw [le_div_iff₀ (by norm_num)]
        exact le_trans (by norm_num) one
      have kept : Format.double.rounded _ ≤ Format.double.rounded _ := Format.rounded_mono least
      rw [Format.rounded_two_zpow (by decide)] at kept
      exact ⟨fun _ => positive, fun _ => (zpow_pos two_pos _).trans_le kept⟩
  cases agrees : isWhole step with
  | true =>
      rw [if_pos rfl, positive_iff, Nat.one_le_floor_iff]
      constructor
      · intro half
        rcases lt_or_ge (toReal (Scalar.ofNat 1000 * step)) 1 with less | more
        · exact .inr ((isWhole_iff_close_one scaled above (by linarith) less).mp agrees)
        · exact .inl more
      · rintro (more | close)
        · linarith
        · rcases lt_or_ge (toReal (Scalar.ofNat 1000 * step)) 1 with less | more
          · linarith [half_lt_of_close_one scaled above less close]
          · linarith
  | false =>
      rw [if_neg Bool.false_ne_true, positive_iff, Nat.one_le_floor_iff]
      refine ⟨.inl, ?_⟩
      rintro (more | close)
      · exact more
      · by_contra! less
        have half := half_lt_of_close_one scaled above less close
        rw [← isWhole_iff_close_one scaled above half.le less, agrees] at close
        cases close

end Finite

/-! ### Longer steps -/

section Order

variable {short long : Float}

/-- A step of which a thousand are infinite is truncated to infinity. -/
theorem truncate_of_scaled_infinite (endless : Scalar.ofNat 1000 * short = positiveInfinity) :
    truncate short = positiveInfinity := by
  unfold truncate thousandths
  rw [endless]
  decide

section Finite

variable (left : (Scalar.ofNat 1000 * short).isFinite = true)
  (right : (Scalar.ofNat 1000 * long).isFinite = true) (le : toReal short ≤ toReal long)
include left right le

theorem toReal_scaled_mono : toReal (Scalar.ofNat 1000 * short) ≤ toReal (Scalar.ofNat 1000 * long) := by
  rw [toReal_scaled left, toReal_scaled right]
  apply Format.rounded_mono
  linarith

variable (above : 0 ≤ toReal short)
include above

/-- A longer step that is still below the whole number with which a step agrees is nearer to it. -/
theorem isWhole_of_le (whole : isWhole short = true)
    (below : toReal (Scalar.ofNat 1000 * long) < ⌊toReal (Scalar.ofNat 1000 * short) + 1 / 2⌋₊) :
    isWhole long = true := by
  have start := toReal_scaled_nonneg left above
  have more := toReal_scaled_mono left right le
  have next := above.trans le
  obtain ⟨first, count⟩ := nearest_spec left start
  obtain ⟨second, same⟩ := nearest_spec right (start.trans more)
  have reached := Nat.floor_le (show 0 ≤ toReal (Scalar.ofNat 1000 * short) + 1 / 2 by positivity)
  have whole_eq : ⌊toReal (Scalar.ofNat 1000 * long) + 1 / 2⌋₊ =
      ⌊toReal (Scalar.ofNat 1000 * short) + 1 / 2⌋₊ := by
    rw [Nat.floor_eq_iff (by linarith)]
    constructor <;> linarith
  rw [whole_eq] at same
  rw [isWhole, close_iff left first (isFinite_distance left above), count] at whole
  rw [isWhole, close_iff right second (isFinite_distance right next), same]
  refine le_trans ?_ whole
  rw [Format.abs_rounded, Format.abs_rounded]
  apply Format.rounded_mono
  rw [abs_of_neg (by linarith), abs_of_neg (by linarith)]
  linarith

/-- A longer step has no fewer thousandths. -/
theorem thousandths_mono : toReal (thousandths short) ≤ toReal (thousandths long) := by
  have next := above.trans le
  have more := toReal_scaled_mono left right le
  rw [(thousandths_spec left above).2, (thousandths_spec right next).2, Nat.cast_le]
  cases agrees : isWhole short with
  | false =>
      rw [if_neg Bool.false_ne_true]
      split
      · exact Nat.floor_mono (by linarith)
      · exact Nat.floor_mono more
  | true =>
      rw [if_pos rfl]
      split
      · exact Nat.floor_mono (by linarith)
      · rename_i apart
        by_contra! less
        rw [Nat.floor_lt (toReal_scaled_nonneg right next)] at less
        exact apart (isWhole_of_le left right le above agrees less)

end Finite

/-- A thousand steps are finite, or too many for a double. -/
theorem isFinite_scaled_or_eq (start : 0.0 ≤ short) :
    (Scalar.ofNat 1000 * short).isFinite = true ∨ Scalar.ofNat 1000 * short = positiveInfinity := by
  by_cases scaled : (Scalar.ofNat 1000 * short).isFinite = true
  · exact .inl scaled
  · right
    obtain ⟨thousand, value⟩ := ofNat_thousand_spec
    have above := toReal_nonneg_of_le start
    rcases isFinite_or_eq_positiveInfinity start with finite | rfl
    · rw [(rounds_mul thousand finite).eq_infinity scaled, value, if_pos (by positivity)]
    · decide

/-- A longer step is truncated to one that is no shorter. -/
theorem truncate_mono (start : 0.0 ≤ short) (le : short ≤ long) : truncate short ≤ truncate long := by
  have above := toReal_nonneg_of_le start
  rcases isFinite_scaled_or_eq (le_of_le_of_le start le) with right | endless
  · have finite := (isFinite_of_mul right).2
    have first := isFinite_of_le_of_le start le zero_spec.1 finite
    rw [le_iff_toReal_le first finite] at le
    obtain ⟨thousand, value⟩ := ofNat_thousand_spec
    have left : (Scalar.ofNat 1000 * short).isFinite = true := by
      rcases isFinite_scaled_or_eq start with left | endless
      · exact left
      · have more := (rounds_mul thousand first).mono (rounds_mul thousand finite)
          (by rw [value]; linarith)
        rw [endless] at more
        rw [eq_positiveInfinity_of_le more, positiveInfinity_spec.2.2] at right
        cases right
    obtain ⟨one, short_eq⟩ := truncate_spec left above
    obtain ⟨two, long_eq⟩ := truncate_spec right (above.trans le)
    rw [le_iff_toReal_le one two, short_eq, long_eq]
    apply Format.rounded_mono
    exact div_le_div_of_nonneg_right (thousandths_mono left right le above) (by norm_num)
  · rw [truncate_of_scaled_infinite endless]
    apply le_positiveInfinity
    rcases isFinite_scaled_or_eq start with left | lost
    · exact isNaN_eq_false_of_isFinite (truncate_spec left above).1
    · rw [truncate_of_scaled_infinite lost]
      exact positiveInfinity_spec.2.1

end Order

end TimeStep

end WaveMedium
