/-
Module: WaveMedium.Proofs.Number.Sine
Purpose: The sine that is summed in fixed point is that of real numbers, up to a small error.
Main exports:
  sinePart, abs_sin_sub_sinePart_le, abs_scaled_sub_sin_le, sine_spec, NearSine, nearSine_sine
-/
import Mathlib
import WaveMedium.Number.Elementary
import WaveMedium.Proofs.Number.Size
import WaveMedium.Proofs.Number.Whole

namespace WaveMedium.Number

open Nat (factorial)

/-! ### The power series -/

/-- The sum of some terms of the power series of the sine, from the term `t` that belongs to the odd number `k`
on.  Each term is the one before it times the square of the angle over the next two factors of the
factorial, with the other sign. -/
noncomputable def sinePart (x : ℝ) (terms k : ℕ) (t : ℝ) : ℝ :=
  ∑ i ∈ Finset.range terms, (-1) ^ i * (t * x ^ (2 * i) * factorial k / factorial (k + 2 * i))

theorem sinePart_zero (x : ℝ) (k : ℕ) (t : ℝ) : sinePart x 0 k t = 0 := Finset.sum_range_zero _

/-- The first term, less the sum of the others. -/
theorem sinePart_succ (x : ℝ) (terms k : ℕ) (t : ℝ) :
    sinePart x (terms + 1) k t =
      t - sinePart x terms (k + 2) (t * x ^ 2 / ((k + 1) * (k + 2))) := by
  have first : (-1 : ℝ) ^ 0 * (t * x ^ (2 * 0) * factorial k / factorial (k + 2 * 0)) = t := by
    have nonzero : (factorial k : ℝ) ≠ 0 := by positivity
    simp [nonzero]
  have others : ∀ i : ℕ,
      (-1 : ℝ) ^ (i + 1) * (t * x ^ (2 * (i + 1)) * factorial k / factorial (k + 2 * (i + 1))) =
        -((-1) ^ i * (t * x ^ 2 / ((k + 1) * (k + 2)) * x ^ (2 * i) * factorial (k + 2) /
          factorial (k + 2 + 2 * i))) := by
    intro i
    have next : (factorial (k + 2) : ℝ) = (k + 2) * ((k + 1) * factorial k) := by
      push_cast [Nat.factorial_succ]
      ring
    have same : k + 2 * (i + 1) = k + 2 + 2 * i := by ring
    have nonzero : (factorial (k + 2 + 2 * i) : ℝ) ≠ 0 := by positivity
    rw [same, next]
    field_simp
    ring
  rw [sinePart, Finset.sum_range_succ', first]
  simp only [others, Finset.sum_neg_distrib]
  rw [sinePart]
  ring

theorem sinePart_append (x : ℝ) (terms : ℕ) :
    sinePart x (terms + 1) 1 x =
      sinePart x terms 1 x + (-1) ^ terms * x ^ (2 * terms + 1) / factorial (2 * terms + 1) := by
  rw [sinePart, Finset.sum_range_succ, ← sinePart, add_comm 1, Nat.factorial_one, Nat.cast_one]
  ring

/-- The terms of odd degree are the imaginary part of the exponential series. -/
theorem im_exp_partial (x : ℝ) (terms : ℕ) :
    (∑ m ∈ Finset.range (2 * terms), (x * Complex.I) ^ m / (factorial m : ℂ)).im = sinePart x terms 1 x := by
  induction terms with
  | zero => simp [sinePart_zero]
  | succ terms ih =>
      have square : (x * Complex.I) ^ (2 * terms) = (((-1) ^ terms * x ^ (2 * terms) : ℝ) : ℂ) := by
        rw [pow_mul, mul_pow, Complex.I_sq, mul_neg_one, neg_pow, ← pow_mul]
        push_cast
        rfl
      have even : ((x * Complex.I) ^ (2 * terms) / (factorial (2 * terms) : ℂ)).im = 0 := by
        rw [square, ← Complex.ofReal_natCast, ← Complex.ofReal_div, Complex.ofReal_im]
      have odd : ((x * Complex.I) ^ (2 * terms + 1) / (factorial (2 * terms + 1) : ℂ)).im =
          (-1) ^ terms * x ^ (2 * terms + 1) / factorial (2 * terms + 1) := by
        have imaginary : (x * Complex.I) ^ (2 * terms + 1) / (factorial (2 * terms + 1) : ℂ) =
            (((-1) ^ terms * x ^ (2 * terms + 1) / factorial (2 * terms + 1) : ℝ) : ℂ) * Complex.I := by
          rw [pow_succ, square]
          push_cast
          ring
        rw [imaginary, Complex.im_ofReal_mul, Complex.I_im, mul_one]
      rw [Nat.mul_succ, Finset.sum_range_succ, Finset.sum_range_succ, Complex.add_im, Complex.add_im, ih, even,
        odd, add_zero, sinePart_append]

/-- Up to seven the sine is its first terms, with an error that is far below what is computed. -/
theorem abs_sin_sub_sinePart_le {x : ℝ} (small : |x| ≤ 7) :
    |Real.sin x - sinePart x 72 1 x| ≤ 1 / 2 ^ 240 := by
  have norm : ‖(x : ℂ) * Complex.I‖ = |x| := by simp
  have half : ‖(x : ℂ) * Complex.I‖ / (2 * 72 : ℕ).succ ≤ 1 / 2 := by
    rw [norm]
    norm_num
    linarith
  have sine : Real.sin x = (Complex.exp (x * Complex.I)).im := (Complex.exp_ofReal_mul_I_im x).symm
  rw [sine, ← im_exp_partial, ← Complex.sub_im]
  calc |(Complex.exp (x * Complex.I) -
          ∑ m ∈ Finset.range (2 * 72), (x * Complex.I) ^ m / (factorial m : ℂ)).im|
    _ ≤ ‖Complex.exp (x * Complex.I) -
          ∑ m ∈ Finset.range (2 * 72), (x * Complex.I) ^ m / (factorial m : ℂ)‖ := Complex.abs_im_le_norm _
    _ ≤ ‖(x : ℂ) * Complex.I‖ ^ (2 * 72) / factorial (2 * 72) * 2 := Complex.exp_bound' half
    _ ≤ 7 ^ (2 * 72) / factorial (2 * 72) * 2 := by
      rw [norm]
      gcongr
    _ ≤ 1 / 2 ^ 240 := by norm_num [Nat.factorial]

/-! ### The series in fixed point -/

/-- Division of integers is division up to one. -/
theorem abs_ediv_sub_le (a : ℤ) {b : ℤ} (positive : 0 < b) : |((a / b : ℤ) : ℝ) - a / b| ≤ 1 := by
  have unit : (0 : ℝ) < b := Int.cast_pos.mpr positive
  have parts : (a : ℝ) = b * (a / b : ℤ) + (a % b : ℤ) := by
    exact_mod_cast (Int.mul_ediv_add_emod a b).symm
  have start : (0 : ℝ) ≤ (a % b : ℤ) := by exact_mod_cast Int.emod_nonneg a positive.ne'
  have rest : ((a % b : ℤ) : ℝ) ≤ b := by exact_mod_cast (Int.emod_lt_of_pos a positive).le
  have quotient : ((a / b : ℤ) : ℝ) - a / b = -((a % b : ℤ) / b) := by
    rw [parts]
    field_simp
    ring
  rw [quotient, abs_neg, abs_of_nonneg (div_nonneg start unit.le), div_le_one unit]
  exact rest

section Series

variable {one angle : ℤ} {x t e f : ℝ} {fuel k : ℕ} {term : ℤ}

theorem sq_le_of_abs_le (small : |x| ≤ 63 / 10) : x ^ 2 ≤ 40 := by
  have bound := abs_le.mp small
  nlinarith

/-- The square of an angle that is exact in fixed point. -/
theorem abs_square_sub_le (positive : 0 < one) (exact_angle : (angle : ℝ) = one * x) :
    |((angle * angle / one : ℤ) : ℝ) - one * x ^ 2| ≤ 1 := by
  have unit : (0 : ℝ) < one := Int.cast_pos.mpr positive
  have near := abs_ediv_sub_le (angle * angle) positive
  have same : ((angle * angle : ℤ) : ℝ) / one = one * x ^ 2 := by
    push_cast
    rw [exact_angle]
    field_simp
  rwa [same] at near

/-- A term times the square of the angle, where both have some error. -/
theorem abs_product_sub_le {square : ℤ} (positive : 0 < one) (small : |x| ≤ 63 / 10)
    (near_square : |(square : ℝ) - one * x ^ 2| ≤ 1) (close : |(term : ℝ) - one * t| ≤ e) :
    |((term * square / one : ℤ) : ℝ) - one * (t * x ^ 2)| ≤ |t| + 41 * e + 1 := by
  have unit : (1 : ℝ) ≤ one := by exact_mod_cast positive
  have below : (0 : ℝ) < one := by linarith
  have start : 0 ≤ e := (abs_nonneg _).trans close
  have near := abs_ediv_sub_le (term * square) positive
  have split : ((term * square : ℤ) : ℝ) / one - one * (t * x ^ 2) =
      t * (square - one * x ^ 2) + (term - one * t) * x ^ 2 +
        (term - one * t) * (square - one * x ^ 2) / one := by
    push_cast
    field_simp
    ring
  have first : |t * (square - one * x ^ 2)| ≤ |t| := by
    rw [abs_mul]
    exact mul_le_of_le_one_right (abs_nonneg _) near_square
  have second : |(term - one * t) * x ^ 2| ≤ e * 40 := by
    rw [abs_mul, abs_of_nonneg (sq_nonneg x)]
    exact mul_le_mul close (sq_le_of_abs_le small) (sq_nonneg x) start
  have third : |(term - one * t) * (square - one * x ^ 2) / one| ≤ e := by
    rw [abs_div, abs_of_pos below, abs_mul]
    apply (div_le_self (by positivity) unit).trans
    exact (mul_le_of_le_one_right (abs_nonneg _) near_square).trans close
  have sum := (abs_add_le _ _).trans (add_le_add ((abs_add_le _ _).trans (add_le_add first second)) third)
  rw [← split] at sum
  have total := (abs_sub_le _ (((term * square : ℤ) : ℝ) / one) _).trans (add_le_add near sum)
  linarith

/-- The next term in fixed point, from one that has some error. -/
theorem abs_next_sub_le (positive : 0 < one) (exact_angle : (angle : ℝ) = one * x) (small : |x| ≤ 63 / 10)
    (k : ℕ) (close : |(term : ℝ) - one * t| ≤ e) :
    |((term * (angle * angle / one) / one / ((k + 1 : ℤ) * (k + 2)) : ℤ) : ℝ) -
        one * (t * x ^ 2 / ((k + 1) * (k + 2)))| ≤ (|t| + 41 * e + 1) / ((k + 1) * (k + 2)) + 1 := by
  have product := abs_product_sub_le positive small (abs_square_sub_le positive exact_angle) close
  generalize term * (angle * angle / one) / one = p at product ⊢
  have divisor : (0 : ℤ) < (k + 1) * (k + 2) := by positivity
  have factor : (0 : ℝ) < (k + 1) * (k + 2) := by positivity
  have near := abs_ediv_sub_le p divisor
  push_cast at near
  have quotient : |(p : ℝ) / ((k + 1) * (k + 2)) - one * (t * x ^ 2 / ((k + 1) * (k + 2)))| ≤
      (|t| + 41 * e + 1) / ((k + 1) * (k + 2)) := by
    rw [← mul_div_assoc, ← sub_div, abs_div, abs_of_pos factor]
    exact div_le_div_of_nonneg_right product factor.le
  have total := (abs_sub_le _ ((p : ℝ) / ((k + 1) * (k + 2))) _).trans (add_le_add near quotient)
  linarith

/-- The size of the next term. -/
theorem abs_next_le (small : |x| ≤ 63 / 10) (k : ℕ) (bound : |t| ≤ e) :
    |t * x ^ 2 / ((k + 1) * (k + 2))| ≤ e * 40 / ((k + 1) * (k + 2)) := by
  have factor : (0 : ℝ) < (k + 1) * (k + 2) := by positivity
  rw [abs_div, abs_mul, abs_of_nonneg (sq_nonneg x), abs_of_pos factor]
  apply div_le_div_of_nonneg_right _ factor.le
  exact mul_le_mul bound (sq_le_of_abs_le small) (sq_nonneg x) ((abs_nonneg t).trans bound)

/-- The errors of a term and of the sum of those after it add up. -/
theorem abs_sum_succ_sub_le {square : ℤ} (close : |(term : ℝ) - one * t| ≤ e)
    (rest : |(sineSeries.sum one square fuel (k + 2 : ℕ) (term * square / one / ((k + 1 : ℤ) * (k + 2))) : ℝ) -
      one * sinePart x fuel (k + 2) (t * x ^ 2 / ((k + 1) * (k + 2)))| ≤ f) :
    |(sineSeries.sum one square (fuel + 1) k term : ℝ) - one * sinePart x (fuel + 1) k t| ≤ e + f := by
  have peeled : sineSeries.sum one square (fuel + 1) k term =
      term - sineSeries.sum one square fuel (k + 2 : ℕ) (term * square / one / ((k + 1 : ℤ) * (k + 2))) := rfl
  have split : ∀ a b c d : ℝ, a - c - one * (b - d) = (a - one * b) - (c - one * d) := by
    intro a b c d
    ring
  rw [peeled, sinePart_succ, Int.cast_sub, split]
  exact (abs_sub _ _).trans (add_le_add close rest)

/-- From the fifth power on the factors of the factorial outweigh the square of the angle, and neither a term
nor its error grows. -/
theorem abs_sum_sub_le (fuel : ℕ) (positive : 0 < one) (exact_angle : (angle : ℝ) = one * x)
    (small : |x| ≤ 63 / 10) (late : 5 ≤ k) (bound : |t| ≤ 100) (close : |(term : ℝ) - one * t| ≤ 150) :
    |(sineSeries.sum one (angle * angle / one) fuel k term : ℝ) - one * sinePart x fuel k t| ≤ 150 * fuel := by
  induction fuel generalizing k term t with
  | zero => simp [sineSeries.sum, sinePart_zero]
  | succ fuel ih =>
      have least : (5 : ℝ) ≤ k := by exact_mod_cast late
      have factors : (42 : ℝ) ≤ (k + 1) * (k + 2) := by nlinarith
      have size : |t * x ^ 2 / ((k + 1) * (k + 2))| ≤ 100 := by
        apply (abs_next_le small k bound).trans
        rw [div_le_iff₀ (by linarith)]
        linarith
      have error : (|t| + 41 * 150 + 1) / ((k + 1) * (k + 2)) ≤ 149 := by
        rw [div_le_iff₀ (by linarith)]
        linarith
      have next := abs_next_sub_le positive exact_angle small k close
      have rest := ih (by omega : 5 ≤ k + 2) size (next.trans (by linarith))
      have sum := abs_sum_succ_sub_le close rest
      push_cast
      linarith

/-- The whole sum.  The first two terms can grow, and their errors are followed one by one. -/
theorem abs_series_sub_le (positive : 0 < one) (exact_angle : (angle : ℝ) = one * x) (small : |x| ≤ 63 / 10)
    (fuel : ℕ) :
    |(sineSeries.sum one (angle * angle / one) (fuel + 1 + 1) (1 : ℕ) angle : ℝ) -
        one * sinePart x (fuel + 1 + 1) 1 x| ≤ 150 * (fuel + 1) := by
  have first : |(angle : ℝ) - one * x| ≤ 0 := by rw [exact_angle, sub_self, abs_zero]
  have cubic : _ ≤ (42 : ℝ) := (abs_next_le small 1 small).trans (by norm_num)
  have quintic : _ ≤ (100 : ℝ) := (abs_next_le small 3 cubic).trans (by norm_num)
  have second : _ ≤ (3 : ℝ) := (abs_next_sub_le positive exact_angle small 1 first).trans (by
    norm_num
    linarith)
  have third : _ ≤ (150 : ℝ) := (abs_next_sub_le positive exact_angle small 3 second).trans (by
    norm_num
    linarith)
  have rest := abs_sum_sub_le fuel positive exact_angle small (le_refl (3 + 2)) quintic third
  have sum := abs_sum_succ_sub_le first (abs_sum_succ_sub_le (k := 3) second rest)
  linarith

/-- The series in fixed point is close to as many terms of the power series. -/
theorem abs_sineSeries_sub_le {bits : ℕ} (exact_angle : (angle : ℝ) = 2 ^ bits * x) (small : |x| ≤ 63 / 10)
    (terms : bits / 4 = 64) :
    |(sineSeries bits angle : ℝ) - 2 ^ bits * sinePart x 72 1 x| ≤ 150 * 71 := by
  have unit : (((Nat.pow 2 bits : ℕ) : ℤ) : ℝ) = 2 ^ bits := by
    rw [Nat.pow_eq]
    push_cast
    rfl
  have positive : (0 : ℤ) < (Nat.pow 2 bits : ℕ) := by
    rw [Nat.pow_eq]
    positivity
  rw [← unit] at exact_angle ⊢
  have series : sineSeries bits angle = sineSeries.sum (Nat.pow 2 bits : ℕ)
      (angle * angle / (Nat.pow 2 bits : ℕ)) (70 + 1 + 1) (1 : ℕ) angle := by
    have fuel : bits / 4 + 8 = 70 + 1 + 1 := by omega
    rw [← fuel]
    rfl
  rw [series]
  have close := abs_series_sub_le positive exact_angle small 70
  exact close.trans_eq (by norm_num)

/-- Scaled back, the series is close to the sine of the angle. -/
theorem abs_scaled_sub_sin_le {bits : ℕ} (exact_angle : (angle : ℝ) = 2 ^ bits * x) (small : |x| ≤ 63 / 10)
    (wide : 256 ≤ bits) (terms : bits / 4 = 64) :
    |(sineSeries bits angle : ℝ) * (2 ^ bits)⁻¹ - Real.sin x| ≤ 1 / 2 ^ 200 := by
  have series := abs_sineSeries_sub_le exact_angle small terms
  have remainder := abs_sin_sub_sinePart_le (small.trans (by norm_num))
  rw [abs_sub_comm] at remainder
  generalize (sineSeries bits angle : ℝ) = v at series ⊢
  have unit : (2 : ℝ) ^ 256 ≤ 2 ^ bits := pow_le_pow_right₀ one_le_two wide
  generalize (2 : ℝ) ^ bits = w at series unit ⊢
  have below : 0 < w := (pow_pos two_pos _).trans_le unit
  have scaled : |v * w⁻¹ - sinePart x 72 1 x| ≤ 1 / 2 ^ 240 := by
    have quotient : v * w⁻¹ - sinePart x 72 1 x = (v - w * sinePart x 72 1 x) / w := by field_simp
    rw [quotient, abs_div, abs_of_pos below, div_le_iff₀ below]
    refine series.trans ?_
    calc (150 : ℝ) * 71
      _ ≤ 1 / 2 ^ 240 * 2 ^ 256 := by norm_num
      _ ≤ 1 / 2 ^ 240 * w := by gcongr
  have total := (abs_sub_le _ (sinePart x 72 1 x) _).trans (add_le_add scaled remainder)
  exact total.trans (by norm_num)

end Series

/-! ### The sine of a double -/

/-- The double that stands for a full turn. -/
theorem turn_spec : (2.0 * pi).isFinite = true ∧ toReal (2.0 * pi) = 884279719003555 / 2 ^ 47 := by
  have parts : Binary.ofFloat (2.0 * pi) = .finite false 7074237752028440 (-50) := by decide
  obtain ⟨finite, value⟩ := spec_of_parts parts
  refine ⟨finite, value.trans ?_⟩
  norm_num

/-- The double for a full turn is a little less than a full turn. -/
theorem turn_bounds :
    6 ≤ toReal (2.0 * pi) ∧ toReal (2.0 * pi) ≤ 2 * Real.pi ∧
      2 * Real.pi ≤ toReal (2.0 * pi) * (1 + 1 / 2 ^ 54) := by
  have low := Real.pi_gt_d20
  have high := Real.pi_lt_d20
  rw [turn_spec.2]
  norm_num at low high ⊢
  constructor <;> linarith

/-- A full turn in fixed point is more than the double for it. -/
theorem lt_fullTurn : ∀ k < 4, 884279719003555 * 2 ^ (209 + k) < fullTurn (256 + k) := by decide +kernel

/-- Without a full turn to take away, the sine of a scaled angle is that of the angle. -/
theorem sineOfScaled_spec {m : ℕ} {q : ℤ} (canonical : Canonical m q) (large : -26 ≤ (m.log2 : ℤ) + q)
    (small : (m : ℝ) * 2 ^ q ≤ 884279719003555 / 2 ^ 47) :
    |((sineOfScaled m q).1 : ℝ) * 2 ^ (sineOfScaled m q).2 - Real.sin (m * 2 ^ q)| ≤ 1 / 2 ^ 200 := by
  have nonzero : 0 < m := by
    rcases m.eq_zero_or_pos with rfl | nonzero
    · have least := canonical.normal.resolve_left (by norm_num)
      rw [Nat.log2_zero, least] at large
      omega
    · exact nonzero
  have positive : (0 : ℝ) < m * 2 ^ q := mul_pos (Nat.cast_pos.mpr nonzero) (zpow_pos two_pos _)
  have digits : m.log2 < 53 := (Nat.log2_lt nonzero.ne').mpr canonical.small
  have top : (m.log2 : ℤ) + q < 3 := by
    rw [← Format.log_mul_two_zpow nonzero]
    exact Format.log_lt_of_lt positive (small.trans_lt (by norm_num))
  have full : 52 ≤ m.log2 := (Nat.le_log2 nonzero.ne').mpr (canonical.normal.resolve_right (by omega))
  obtain ⟨k, few, width⟩ : ∃ k < 4, (q + 53).toNat = k := ⟨_, by omega, rfl⟩
  obtain ⟨n, lifted⟩ : ∃ n : ℕ, q + (256 + k : ℕ) = n := ⟨(q + (256 + k : ℕ)).toNat, by omega⟩
  -- The angle in fixed point is exact, and below a full turn.
  have angle : ((m * 2 ^ n : ℕ) : ℝ) = 2 ^ (256 + k) * (m * 2 ^ q) := by
    have power : (2 : ℝ) ^ n = 2 ^ q * 2 ^ (256 + k) := by
      rw [← zpow_natCast, ← lifted, two_zpow_add, zpow_natCast]
    push_cast
    rw [power]
    ring
  have less : m * 2 ^ n < fullTurn (256 + k) := by
    refine lt_of_le_of_lt ?_ (lt_fullTurn k few)
    have scaled : ((m * 2 ^ n : ℕ) : ℝ) ≤ (884279719003555 * 2 ^ (209 + k) : ℕ) := by
      rw [angle, show 256 + k = 209 + k + 47 by ring, pow_add]
      push_cast
      have unit : (0 : ℝ) < 2 ^ (209 + k) := by positivity
      calc (2 : ℝ) ^ (209 + k) * 2 ^ 47 * (m * 2 ^ q)
        _ ≤ 2 ^ (209 + k) * 2 ^ 47 * (884279719003555 / 2 ^ 47) := by gcongr
        _ = 884279719003555 * 2 ^ (209 + k) := by field_simp
    exact Nat.cast_le.mp scaled
  have computed : sineOfScaled m q = (sineSeries (256 + k) (m * 2 ^ n : ℕ), -((256 + k : ℕ) : ℤ)) := by
    unfold sineOfScaled
    simp only [width, Nat.pow_eq, lifted, Int.toNat_natCast, ← Int.natCast_mod, Nat.mod_eq_of_lt less]
  have radius : |(m : ℝ) * 2 ^ q| ≤ 63 / 10 := by
    rw [abs_of_pos positive]
    exact small.trans (by norm_num)
  rw [computed, zpow_neg, zpow_natCast]
  exact abs_scaled_sub_sin_le (by rw [Int.cast_natCast, angle]) radius (by omega) (by omega)

theorem toReal_finite_natAbs (v e : ℤ) :
    (Binary.finite (decide (v < 0)) v.natAbs e).toReal = v * 2 ^ e := by
  have size : (v.natAbs : ℝ) = |(v : ℝ)| := by rw [Nat.cast_natAbs, Int.cast_abs]
  rw [Binary.toReal_finite, size]
  rcases lt_or_ge v 0 with minus | plus
  · have negative : (v : ℝ) < 0 := Int.cast_lt_zero.mpr minus
    simp [minus, abs_of_neg negative]
  · have start : (0 : ℝ) ≤ v := Int.cast_nonneg plus
    simp [plus.not_gt, abs_of_nonneg start]

/-- A double that is the sine of an angle up to one unit in the last place, which is at most `2 ^ -52` of the
number.  Correct rounding is one way to meet this bound, and what is proved about the absorbing layer rests on
the bound alone. -/
structure NearSine (s : Float) (θ : ℝ) : Prop where
  finite : s.isFinite = true
  error : |toReal s - Real.sin θ| ≤ |Real.sin θ| / 2 ^ 52 + 1 / 2 ^ 150

/-- The sine of an angle that is not very small is noticeably less than the angle. -/
theorem sin_le_sub {θ : ℝ} (large : 2 ^ (-24 : ℤ) ≤ θ) (small : θ ≤ 7) : Real.sin θ ≤ θ - θ / 2 ^ 51 := by
  norm_num at large
  rcases le_total θ 1 with fraction | whole
  · have series := (abs_le.mp (Real.sin_bound (by rwa [abs_of_nonneg (by linarith)] : |θ| ≤ 1))).2
    rw [abs_of_nonneg (by linarith : 0 ≤ θ)] at series
    have square : 1 / 2 ^ 48 ≤ θ ^ 2 := by nlinarith
    have cube : θ ^ 5 ≤ θ ^ 3 := pow_le_pow_of_le_one (by linarith) fraction (by norm_num)
    have linear : θ / 2 ^ 48 ≤ θ ^ 3 := by nlinarith
    linarith
  · -- From one on the sine grows no faster than the angle.
    have one := (abs_le.mp (Real.sin_bound (by norm_num : |(1 : ℝ)| ≤ 1))).2
    have slope := (le_abs_self _).trans (Real.abs_sin_sub_sin_le θ 1)
    rw [abs_of_nonneg (by linarith : 0 ≤ θ - 1)] at slope
    norm_num at one ⊢
    linarith

namespace NearSine

variable {s : Float} {θ : ℝ} (near : NearSine s θ)
include near

theorem abs_le_two : |toReal s| ≤ 2 := by
  have size := Real.abs_sin_le_one θ
  have error := near.error
  have sum := abs_sub_abs_le_abs_sub (toReal s) (Real.sin θ)
  linarith

/-- It is hardly more than the angle. -/
theorem le_angle (start : 0 ≤ θ) : toReal s ≤ θ + θ / 2 ^ 52 + 1 / 2 ^ 150 := by
  have error := (abs_le.mp near.error).2
  have size := Real.abs_sin_le_abs (x := θ)
  rw [abs_of_nonneg start] at size
  linarith [Real.sin_le start]

/-- It is noticeably less than an angle that is not very small. -/
theorem le_angle_sub (large : 2 ^ (-24 : ℤ) ≤ θ) (small : θ ≤ 7) :
    toReal s ≤ θ - θ / 2 ^ 52 + 1 / 2 ^ 150 := by
  have start : 0 ≤ θ := (zpow_pos two_pos _).le.trans large
  have error := (abs_le.mp near.error).2
  have size := Real.abs_sin_le_abs (x := θ)
  rw [abs_of_nonneg start] at size
  linarith [sin_le_sub large small]

/-- It is hardly less than what the angle lacks of a full turn, taken negative. -/
theorem angle_sub_le (below : θ ≤ 2 * Real.pi) : θ - 2 * Real.pi - 1 / 2 ^ 51 ≤ toReal s := by
  have error := (abs_le.mp near.error).1
  have size := Real.abs_sin_le_one θ
  have rest : -Real.sin θ ≤ 2 * Real.pi - θ := by
    rw [← Real.sin_two_pi_sub]
    exact Real.sin_le (by linarith)
  linarith

/-- In the second half of a turn it is hardly more than zero. -/
theorem le_of_pi_le (half : Real.pi ≤ θ) (below : θ ≤ 2 * Real.pi) : toReal s ≤ 1 / 2 ^ 150 := by
  have error := (abs_le.mp near.error).2
  have negative := Real.sin_nonneg_of_nonneg_of_le_pi (by linarith : 0 ≤ θ - Real.pi) (by linarith)
  rw [Real.sin_sub_pi] at negative
  rw [abs_of_nonpos (by linarith)] at error
  linarith

end NearSine

section Sine

variable {x : Float} (finite : x.isFinite = true) (above : 0 ≤ toReal x)
include finite above

/-- Up to the double for a full turn, the sine of a small angle is the angle, and that of any other is rounded
from a number very close to the sine. -/
theorem sine_spec (below : toReal x ≤ toReal (2.0 * pi)) :
    ∃ r, Rounds .double (sine x) r ∧
      (toReal x < 2 ^ (-26 : ℤ) ∧ r = toReal x ∨
        2 ^ (-26 : ℤ) ≤ toReal x ∧ |r - Real.sin (toReal x)| ≤ 1 / 2 ^ 200) := by
  have kept := rounds_self finite
  obtain ⟨negative, m, q, parts, canonical, value, sign⟩ := exists_parts_of_nonneg finite above
  rw [turn_spec.2, value] at below
  unfold sine
  rw [parts]
  rw [value] at kept ⊢
  dsimp only
  rcases m.eq_zero_or_pos with rfl | nonzero
  · obtain rfl : q = -1074 := canonical.normal.resolve_left (by norm_num)
    rw [Nat.log2_zero, if_pos (by norm_num)]
    refine ⟨_, kept, .inl ⟨?_, rfl⟩⟩
    rw [Nat.cast_zero, zero_mul]
    exact zpow_pos two_pos _
  have positive : (0 : ℝ) < m * 2 ^ q := mul_pos (Nat.cast_pos.mpr nonzero) (zpow_pos two_pos _)
  have log := Format.log_mul_two_zpow (q := q) nonzero
  split
  · rename_i small
    refine ⟨_, kept, .inl ⟨(Format.lt_zpow_log _).trans_le ?_, rfl⟩⟩
    rw [log]
    exact two_zpow_le (by omega)
  · rename_i large
    have large : -26 ≤ (m.log2 : ℤ) + q := by omega
    refine ⟨_, rounds_toFloat _ _ _, .inr ⟨(two_zpow_le large).trans (log ▸ Format.zpow_log_le positive), ?_⟩⟩
    have plus : negative = false := by
      cases negative with
      | false => rfl
      | true => exact absurd (sign rfl) nonzero.ne'
    rw [plus, Bool.false_bne, toReal_finite_natAbs]
    exact sineOfScaled_spec canonical large below

/-- The sine of a double up to a full turn meets the bound. -/
theorem nearSine_sine (below : toReal x ≤ toReal (2.0 * pi)) : NearSine (sine x) (toReal x) := by
  obtain ⟨r, rounds, ⟨small, rfl⟩ | ⟨_, close⟩⟩ := sine_spec finite above below
  · have bounded := rounds.isFinite_of_abs_le_toReal finite le_rfl
    refine ⟨bounded, ?_⟩
    rw [rounds.toReal_eq bounded, rounded_toReal finite]
    generalize toReal x = θ at above small
    norm_num at small
    have series := (abs_le.mp (Real.sin_bound (by
      rw [abs_of_nonneg above]
      linarith : |θ| ≤ 1))).1
    rw [abs_of_nonneg above] at series
    have upper := Real.sin_le above
    have square : θ ^ 2 ≤ 1 / 2 ^ 52 := by nlinarith
    have cube : θ ^ 3 ≤ θ / 2 ^ 52 := by nlinarith
    have more : θ ^ 5 ≤ θ ^ 3 := pow_le_pow_of_le_one above (by linarith) (by norm_num)
    rw [abs_of_nonneg (by linarith), abs_of_nonneg (by linarith)]
    linarith
  · have size := Real.abs_sin_le_one (toReal x)
    have error := Format.abs_double_rounded_sub_le r
    have exact_size := abs_sub_abs_le_abs_sub r (Real.sin (toReal x))
    have bounded := rounds.isFinite_of_abs_le (n := 1) (by decide) (by decide) (by
      norm_num
      linarith)
    refine ⟨bounded, ?_⟩
    rw [rounds.toReal_eq bounded]
    have total := (abs_sub_le _ r _).trans (add_le_add error close)
    linarith [abs_nonneg (Real.sin (toReal x))]

end Sine

end WaveMedium.Number
