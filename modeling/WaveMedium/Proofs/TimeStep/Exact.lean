/-
Module: WaveMedium.Proofs.TimeStep.Exact
Purpose: What truncation to thousandths does to a time step if nothing is rounded on the way.
Main exports:
  TimeStep.IsNear, TimeStep.snap, TimeStep.truncate_eq_snap, TimeStep.snap_le, TimeStep.snap_mono,
  TimeStep.truncation_law
-/
import Mathlib
import WaveMedium.TimeStep

/-!
Over the rational numbers the only roundings are those that the truncation is made of.  A step counts `s`
thousandths, and what is kept of them is the nearest whole number if `s` agrees with it up to the
tolerance, and the next lower one otherwise.  From five hundred million on the tolerance is more than a
half, so that every `s` agrees with the nearest whole number.
-/

namespace WaveMedium.TimeStep

/-! ### Arithmetic without rounding -/

theorem nearest_eq_round {s : ℚ} (above : 0 ≤ s) : Scalar.nearest s = (round s : ℚ) := by
  rw [round_eq]
  exact if_pos above

theorem abs_eq_abs (a : ℚ) : Scalar.abs a = |a| := by
  by_cases above : 0 ≤ a
  · rw [abs_of_nonneg above]
    exact if_pos above
  · rw [abs_of_neg (not_le.mp above)]
    exact if_neg above

theorem larger_eq_max (a b : ℚ) : Scalar.larger a b = max a b := (max_def a b).symm

theorem close_iff_abs_sub_le (a b : ℚ) :
    Scalar.close a b = true ↔ |a - b| ≤ 1 / 10 ^ 9 * max |b| 1 := by
  have tolerance : (Scalar.ofDecimal 1 9 : ℚ) = 1 / 10 ^ 9 := by
    change ((1 : ℕ) : ℚ) / ((Nat.pow 10 9 : ℕ) : ℚ) = _
    norm_num
  have one : (Scalar.ofNat 1 : ℚ) = 1 := Nat.cast_one
  unfold Scalar.close
  rw [abs_eq_abs, abs_eq_abs, larger_eq_max, tolerance, one]
  exact decide_eq_true_iff

/-! ### Whole numbers of thousandths -/

/-- A number agrees with the nearest whole number up to the tolerance. -/
def IsNear (s : ℚ) : Prop := |s - round s| ≤ 1 / 10 ^ 9 * max |(round s : ℚ)| 1

instance (s : ℚ) : Decidable (IsNear s) := inferInstanceAs (Decidable (_ ≤ _))

/-- The whole number that a number is taken for. -/
def snap (s : ℚ) : ℤ := if IsNear s then round s else ⌊s⌋

/-- The thousandths that are kept of a step. -/
theorem thousandths_eq_snap {step : ℚ} (above : 0 ≤ step) :
    thousandths step = (snap (1000 * step) : ℚ) := by
  have scaled : 0 ≤ 1000 * step := by positivity
  have near : Scalar.close (1000 * step) (round (1000 * step) : ℚ) = true ↔ IsNear (1000 * step) :=
    close_iff_abs_sub_le _ _
  change (if Scalar.close (1000 * step) (Scalar.nearest (1000 * step)) then
      Scalar.nearest (1000 * step) else Scalar.floor (1000 * step)) = _
  rw [nearest_eq_round scaled, snap]
  by_cases agrees : IsNear (1000 * step)
  · rw [if_pos (near.mpr agrees), if_pos agrees]
  · rw [if_neg fun close => agrees (near.mp close), if_neg agrees]
    rfl

theorem truncate_eq_snap {step : ℚ} (above : 0 ≤ step) :
    truncate step = (snap (1000 * step) : ℚ) / 1000 := by
  have kept := thousandths_eq_snap above
  change thousandths step / 1000 = _
  rw [kept]

section Snap

variable {s t : ℚ}

/-- A whole number is taken for itself. -/
theorem snap_intCast (n : ℤ) : snap n = n := by
  unfold snap
  split
  · exact round_intCast n
  · exact Int.floor_intCast n

theorem floor_le_snap (s : ℚ) : ⌊s⌋ ≤ snap s := by
  unfold snap
  split
  · rw [round_eq]
    exact Int.floor_mono (by linarith)
  · exact le_refl _

/-- A number loses less than one. -/
theorem sub_one_lt_snap (s : ℚ) : s - 1 < snap s := by
  have less : (⌊s⌋ : ℚ) ≤ snap s := by exact_mod_cast floor_le_snap s
  linarith [Int.sub_one_lt_floor s]

theorem snap_nonneg (above : 0 ≤ s) : 0 ≤ snap s := (Int.floor_nonneg.mpr above).trans (floor_le_snap s)

/-- A number gains no more than the tolerance for the number that it is taken for. -/
theorem snap_le (above : 0 ≤ s) : (snap s : ℚ) ≤ s + 1 / 10 ^ 9 * max (snap s : ℚ) 1 := by
  have positive : (0 : ℚ) ≤ snap s := by exact_mod_cast snap_nonneg above
  unfold snap at *
  split
  · rename_i near
    rw [if_pos near] at positive
    unfold IsNear at near
    rw [abs_of_nonneg positive] at near
    linarith [(abs_le.mp near).1]
  · have lower := Int.floor_le s
    have slack : (0 : ℚ) ≤ 1 / 10 ^ 9 * max (⌊s⌋ : ℚ) 1 := by positivity
    linarith

/-- A larger number that is still below the whole number with which a number agrees is nearer to it. -/
theorem isNear_of_le (near : IsNear s) (le : s ≤ t) (below : t < round s) : IsNear t := by
  have reached : (round s : ℚ) ≤ s + 1 / 2 := by
    rw [round_eq]
    exact Int.floor_le _
  have same : round t = round s := by
    rw [round_eq t, Int.floor_eq_iff]
    constructor <;> linarith
  unfold IsNear at *
  rw [same]
  refine le_trans ?_ near
  rw [abs_of_neg (by linarith), abs_of_neg (by linarith)]
  linarith

/-- A larger number is not taken for a smaller whole number, also where one of the two is rounded to the
nearest whole number and the other to the next lower one. -/
theorem snap_mono (le : s ≤ t) : snap s ≤ snap t := by
  by_cases near : IsNear s
  · rw [snap, if_pos near]
    by_cases also : IsNear t
    · rw [snap, if_pos also, round_eq, round_eq]
      exact Int.floor_mono (by linarith)
    · rw [snap, if_neg also, Int.le_floor]
      by_contra! below
      exact also (isNear_of_le near le below)
  · rw [snap, if_neg near]
    exact (Int.floor_mono le).trans (floor_le_snap t)

end Snap

/-! ### The law -/

/-- A step that is not negative is truncated to whole thousandths.  It loses less than one of them, and
gains at most one part in a thousand million of what it is truncated to, or of one thousandth if that
is more.  Truncated once more it stays the same, and a longer step is truncated to one that is no
shorter. -/
theorem truncation_law {x : ℚ} (above : 0 ≤ x) :
    (∃ n : ℤ, 1000 * truncate x = n) ∧
      x - 1 / 1000 < truncate x ∧
      truncate x ≤ x + 1 / 10 ^ 12 * max (1000 * truncate x) 1 ∧
      truncate (truncate x) = truncate x ∧
      ∀ y, x ≤ y → truncate x ≤ truncate y := by
  have scaled : 0 ≤ 1000 * x := by positivity
  have kept := truncate_eq_snap above
  have whole : 1000 * truncate x = (snap (1000 * x) : ℚ) := by rw [kept]; ring
  have positive : 0 ≤ truncate x := by
    rw [kept]
    exact div_nonneg (Int.cast_nonneg (snap_nonneg scaled)) (by norm_num)
  refine ⟨⟨_, whole⟩, ?_, ?_, ?_, fun y le => ?_⟩
  · linarith [sub_one_lt_snap (1000 * x)]
  · have gain := snap_le scaled
    rw [← whole] at gain
    linarith
  · rw [truncate_eq_snap positive, whole, snap_intCast, kept]
  · have later : (snap (1000 * x) : ℚ) ≤ snap (1000 * y) := by
      exact_mod_cast snap_mono (by linarith)
    rw [kept, truncate_eq_snap (above.trans le)]
    linarith

/-- A step that lacks very little of two hundred and eighty thousandths is taken for them, so a longer one is
not truncated to less. -/
theorem truncation_law_justBelow :
    truncate (27999999999999997 / 10 ^ 17 : ℚ) = 7 / 25 ∧
      truncate (truncate (27999999999999997 / 10 ^ 17 : ℚ)) = 7 / 25 ∧
      (7 / 25 : ℚ) ≤ truncate (561 / 2000) := by
  have above : (0 : ℚ) ≤ 27999999999999997 / 10 ^ 17 := by norm_num
  obtain ⟨_, _, _, again, monotone⟩ := truncation_law above
  have nearest : round (1000 * (27999999999999997 / 10 ^ 17) : ℚ) = 280 := by
    rw [round_eq, Int.floor_eq_iff]
    norm_num
  have taken : snap (1000 * (27999999999999997 / 10 ^ 17)) = 280 := by
    rw [snap, if_pos, nearest]
    rw [IsNear, nearest]
    norm_num [abs_of_neg]
  have kept : truncate (27999999999999997 / 10 ^ 17 : ℚ) = 7 / 25 := by
    rw [truncate_eq_snap above, taken]
    norm_num
  have longer := monotone (561 / 2000) (by norm_num)
  rw [kept] at again longer
  exact ⟨kept, by rw [kept, again], longer⟩

end WaveMedium.TimeStep
