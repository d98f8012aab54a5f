/-
Module: WaveMedium.Proofs.Absorption.Ramp
Purpose: The size of the share of a row of the absorbing layer.
Main exports:
  Absorption.position, Absorption.bend, Absorption.spans_coefficient, Absorption.ramp_bounds,
  Absorption.ramp_nonneg, Absorption.le_ramp_zero
-/
import Mathlib
import WaveMedium.Absorption
import WaveMedium.Proofs.Number.Count
import WaveMedium.Proofs.Number.Sine

namespace WaveMedium.Absorption

open Number

/-! ### Rows -/

/-- Where a row stands in the layer, from one on the outermost row down towards zero. -/
def position (distance width : Nat) : Float :=
  ((Float.ofNat width - Float.ofNat (distance + 1) + 1.0) / Float.ofNat width).abs

/-- A place of the ramp is a double from zero to one. -/
structure Place (p : Float) : Prop where
  finite : p.isFinite = true
  start : 0 ≤ toReal p
  stop : toReal p ≤ 1

/-- The shape of the ramp, flat at both ends: a place less the fraction of a turn that the sine `s` of the angle
there is. -/
def bend (p s : Float) : Float := p - s / (2.0 * pi)

/-- The ramp at the place of a row. -/
def bendAt (distance width : Nat) : Float :=
  bend (position distance width) (sine (2.0 * pi * position distance width))

theorem ramp_eq (distance width : Nat) :
    ramp distance width = coefficient * bendAt distance width := rfl

theorem spans_ofNat {n : ℕ} (positive : 0 < n) (counted : n ≤ 2 ^ 64) : Spans (Float.ofNat n) 0 64 := by
  apply (rounds_ofNat n).spans (by decide) (by decide)
  · exact_mod_cast (positive : 1 ≤ n)
  · exact_mod_cast counted

section Rows

variable {distance width : ℕ} (inside : distance < width) (counted : width ≤ 2 ^ 64)
include inside counted

/-- The rows from one row to the inside are at least one and at most all. -/
theorem rows_spec :
    (Float.ofNat width - Float.ofNat (distance + 1) + 1.0).isFinite = true ∧
      1 ≤ toReal (Float.ofNat width - Float.ofNat (distance + 1) + 1.0) ∧
      toReal (Float.ofNat width - Float.ofNat (distance + 1) + 1.0) ≤ toReal (Float.ofNat width) := by
  have all := spans_ofNat (Nat.zero_lt_of_lt inside) counted
  have outside := spans_ofNat distance.succ_pos (inside.trans_le counted : distance + 1 ≤ _)
  apply sub_add_one_spec all outside
  rw [← le_iff_toReal_le outside.finite all.finite]
  exact (rounds_ofNat _).mono (rounds_ofNat _) (Nat.cast_le.mpr inside)

/-- A row stands where the rows from it to the inside are among all rows, rounded. -/
theorem position_spec :
    (position distance width).isFinite = true ∧
      toReal (position distance width) = Format.double.rounded
        (toReal (Float.ofNat width - Float.ofNat (distance + 1) + 1.0) / toReal (Float.ofNat width)) := by
  have all := spans_ofNat (Nat.zero_lt_of_lt inside) counted
  obtain ⟨finite, one, most⟩ := rows_spec inside counted
  have rounds := rounds_div finite all.finite all.pos.ne'
  have start := div_nonneg (zero_le_one.trans one) all.pos.le
  have quotient := rounds.isFinite_of_abs_le (n := 0) (by decide) (by decide) (by
    rw [abs_of_nonneg start, zpow_zero, div_le_one all.pos]
    exact most)
  obtain ⟨absolute, value⟩ := abs_spec quotient
  rw [abs_of_nonneg (rounds.toReal_nonneg quotient start), rounds.toReal_eq quotient] at value
  exact ⟨absolute, value⟩

theorem place_position : Place (position distance width) := by
  have all := spans_ofNat (Nat.zero_lt_of_lt inside) counted
  obtain ⟨_, one, most⟩ := rows_spec inside counted
  obtain ⟨finite, value⟩ := position_spec inside counted
  refine ⟨finite, ?_, ?_⟩ <;> rw [value]
  · exact Format.rounded_nonneg _ (div_nonneg (zero_le_one.trans one) all.pos.le)
  · apply rounded_le_one
    have part := (div_le_one all.pos).mpr most
    linarith [(by positivity : (0 : ℝ) ≤ 1 / 2 ^ 60)]

/-- On a layer that is not very wide no row stands too close to zero. -/
theorem le_position (narrow : width ≤ 2 ^ 26) : 2 ^ (-26 : ℤ) ≤ toReal (position distance width) := by
  have all := spans_ofNat (Nat.zero_lt_of_lt inside) counted
  obtain ⟨_, one, _⟩ := rows_spec inside counted
  have few : toReal (Float.ofNat width) ≤ 2 ^ (26 : ℤ) := by
    apply (rounds_ofNat width).toReal_le all.finite (by decide)
    exact_mod_cast narrow
  rw [(position_spec inside counted).2, ← Format.rounded_two_zpow (by decide : Format.double.least ≤ -26)]
  apply Format.rounded_mono
  rw [le_div_iff₀ all.pos]
  calc (2 : ℝ) ^ (-26 : ℤ) * toReal (Float.ofNat width)
    _ ≤ 2 ^ (-26 : ℤ) * 2 ^ (26 : ℤ) := by gcongr
    _ = 1 := by norm_num
    _ ≤ _ := one

end Rows

/-- The outermost row stands at one, up to rounding. -/
theorem le_position_zero {width : ℕ} (positive : 0 < width) (counted : width ≤ 2 ^ 64) :
    1 - 1 / 2 ^ 50 ≤ toReal (position 0 width) := by
  have all := spans_ofNat positive counted
  have first := spans_ofNat Nat.one_pos (by norm_num : 1 ≤ 2 ^ 64)
  have one : toReal (Float.ofNat 1) = 1 := by
    rw [(rounds_ofNat 1).toReal_eq first.finite, rounded_natCast (by norm_num), Nat.cast_one]
  have large := all.lower
  rw [zpow_zero] at large
  have rows := le_sub_one_add_one all first (by rw [one]; exact large) one
  have part : 1 - 1 / 2 ^ 51 ≤
      toReal (Float.ofNat width - Float.ofNat (0 + 1) + 1.0) / toReal (Float.ofNat width) := by
    rw [le_div_iff₀ all.pos, mul_comm]
    exact rows
  rw [(position_spec positive counted).2]
  refine le_trans ?_ (Format.rounded_mono part)
  have error := (abs_le.mp (Format.abs_double_rounded_sub_le (1 - 1 / 2 ^ 51))).1
  norm_num [abs_of_pos] at error ⊢
  linarith

/-! ### The shape of the ramp -/

section Bend

variable {p : Float} (place : Place p)
include place

/-- The angle at a place of the ramp, as a double. -/
theorem angle_spec :
    (2.0 * pi * p).isFinite = true ∧ 0 ≤ toReal (2.0 * pi * p) ∧
      toReal (2.0 * pi * p) ≤ toReal (2.0 * pi) ∧
      |toReal (2.0 * pi * p) - toReal (2.0 * pi) * toReal p| ≤
        toReal (2.0 * pi) * toReal p / 2 ^ 53 + 1 / 2 ^ 250 := by
  have turn := turn_spec.1
  have positive : 0 ≤ toReal (2.0 * pi) := by linarith [turn_bounds.1]
  have start := mul_nonneg positive place.start
  have most : toReal (2.0 * pi) * toReal p ≤ toReal (2.0 * pi) := mul_le_of_le_one_right positive place.stop
  have rounds := rounds_mul turn place.finite
  have angle := rounds.isFinite_of_abs_le_toReal turn (by
    rw [abs_of_nonneg start, abs_of_nonneg positive]
    exact most)
  have error := rounds.abs_toReal_sub_le angle
  rw [abs_of_nonneg start] at error
  refine ⟨angle, rounds.toReal_nonneg angle start, ?_, error⟩
  rw [← le_iff_toReal_le angle turn]
  exact rounds.mono (rounds_self turn) most

variable {s : Float} (near : NearSine s (toReal (2.0 * pi * p)))
include near

/-- The ramp at a place is the place less a fraction of a turn, rounded. -/
theorem bend_spec :
    (bend p s).isFinite = true ∧
      toReal (bend p s) =
        Format.double.rounded (toReal p - Format.double.rounded (toReal s / toReal (2.0 * pi))) := by
  have sine : Within s 1 := ⟨near.finite, by simpa using near.abs_le_two⟩
  have turn := turn_bounds.1
  have spans : Spans (2.0 * pi) 2 3 := by
    refine ⟨turn_spec.1, ?_, ?_⟩
    · norm_num
      linarith
    · rw [turn_spec.2]
      norm_num
  have quotient := sine.div spans (by decide) (by decide)
  have within : Within p 0 := by
    refine ⟨place.finite, ?_⟩
    rw [abs_of_nonneg place.start]
    simpa using place.stop
  have bent := (within.mono (by decide : (0 : ℤ) ≤ 1)).sub (quotient.mono (by decide)) (by decide) (by decide)
  have fraction := (rounds_div sine.finite spans.finite spans.pos.ne').toReal_eq quotient.finite
  have value := (rounds_sub place.finite quotient.finite).toReal_eq bent.finite
  rw [fraction] at value
  exact ⟨bent.finite, value⟩

theorem bend_le : toReal (bend p s) ≤ 1 + 1 / 2 ^ 48 := by
  obtain ⟨_, start, most, angle⟩ := angle_spec place
  obtain ⟨_, value⟩ := bend_spec place near
  have above := place.start
  have below := place.stop
  have turn := turn_bounds
  have low := near.angle_sub_le (most.trans turn.2.1)
  have size := abs_le.mp near.abs_le_two
  have top := Real.pi_lt_d20
  have far := (abs_le.mp angle).1
  rw [turn_spec.2] at *
  rw [value]
  have first := abs_rounded_sub_le_of_le (r := toReal s / (884279719003555 / 2 ^ 47)) (by
    rw [abs_le]
    constructor <;> linarith)
  have fraction := abs_le.mp first
  have second := abs_rounded_sub_le_of_le
    (r := toReal p - Format.double.rounded (toReal s / (884279719003555 / 2 ^ 47))) (by
    rw [abs_le]
    constructor <;> linarith)
  have bent := abs_le.mp second
  linarith

theorem bend_nonneg (apart : 2 ^ (-26 : ℤ) ≤ toReal p) : 0 ≤ toReal (bend p s) := by
  obtain ⟨_, start, most, angle⟩ := angle_spec place
  obtain ⟨_, value⟩ := bend_spec place near
  have turn := turn_bounds
  have top := Real.pi_lt_d20
  have error := abs_le.mp angle
  rw [value]
  apply Format.rounded_nonneg
  rw [sub_nonneg, ← rounded_toReal place.finite]
  apply Format.rounded_mono
  rw [div_le_iff₀ (by linarith)]
  have large : 2 ^ (-24 : ℤ) ≤ toReal (2.0 * pi * p) := by
    norm_num at apart ⊢
    nlinarith
  have less := near.le_angle_sub large (by linarith)
  norm_num at large
  linarith

/-- Rounding can leave the ramp a little below zero where it is flat. -/
theorem le_bend : -2 ^ (-76 : ℤ) ≤ toReal (bend p s) := by
  rcases le_total (2 ^ (-26 : ℤ)) (toReal p) with apart | close
  · exact le_trans (neg_nonpos.mpr (zpow_pos two_pos _).le) (bend_nonneg place near apart)
  · obtain ⟨_, start, most, angle⟩ := angle_spec place
    obtain ⟨_, value⟩ := bend_spec place near
    have error := (abs_le.mp angle).2
    rw [value, ← Format.rounded_two_zpow (by decide : Format.double.least ≤ -76), ← Format.rounded_neg]
    apply Format.rounded_mono
    have sine := near.le_angle start
    rw [turn_spec.2] at *
    have quotient := div_le_div_of_nonneg_right sine (by norm_num : (0 : ℝ) ≤ 884279719003555 / 2 ^ 47)
    have fraction := rounded_le_of_le (by linarith) quotient
    norm_num at close ⊢
    linarith

theorem le_bend_of_le (outermost : 1 - 1 / 2 ^ 50 ≤ toReal p) : 1 - 1 / 2 ^ 48 ≤ toReal (bend p s) := by
  obtain ⟨_, start, most, angle⟩ := angle_spec place
  obtain ⟨_, value⟩ := bend_spec place near
  have turn := turn_bounds.2.1
  have top := Real.pi_lt_d20
  have error := (abs_le.mp angle).1
  rw [turn_spec.2] at *
  have sine := near.le_of_pi_le (by linarith) (most.trans turn)
  have quotient := div_le_div_of_nonneg_right sine (by norm_num : (0 : ℝ) ≤ 884279719003555 / 2 ^ 47)
  have fraction := rounded_le_of_le (by norm_num) quotient
  have least : 1 - 1 / 2 ^ 49 ≤
      toReal p - Format.double.rounded (toReal s / (884279719003555 / 2 ^ 47)) := by
    linarith
  have kept := (abs_le.mp (abs_rounded_sub_le_of_le (r := 1 - 1 / 2 ^ 49) (by
    rw [abs_le]
    constructor <;> norm_num))).1
  rw [value]
  apply le_trans _ (Format.rounded_mono least)
  linarith

end Bend

/-! ### The strength of the layer -/

theorem log_thousand_bounds : 69 / 10 ≤ Real.log 1000 ∧ Real.log 1000 ≤ 6911 / 1000 := by
  have two := Real.log_two_gt_d9
  have more := Real.log_two_lt_d9
  have power : Real.log 1000 = 10 * Real.log 2 - Real.log (1024 / 1000) := by
    rw [Real.log_div (by norm_num) (by norm_num), show (1024 : ℝ) = 2 ^ 10 by norm_num, Real.log_pow]
    norm_num
  have low := Real.one_sub_inv_le_log_of_pos (by norm_num : (0 : ℝ) < 1024 / 1000)
  have high := Real.log_le_sub_one_of_pos (by norm_num : (0 : ℝ) < 1024 / 1000)
  norm_num at two more low high ⊢
  constructor <;> linarith

/-- The logarithm of the inverse of the reflection, up to one hundredth.  That is all that is used of it. -/
theorem abs_naturalLog_sub_log_le :
    (naturalLog (1.0 / reflection)).isFinite = true ∧
      |toReal (naturalLog (1.0 / reflection)) - Real.log 1000| ≤ 1 / 100 := by
  have parts : Binary.ofFloat (naturalLog (1.0 / reflection)) = .finite false 7777441025097632 (-50) := by
    decide +kernel
  obtain ⟨finite, value⟩ := spec_of_parts parts
  obtain ⟨low, high⟩ := log_thousand_bounds
  refine ⟨finite, ?_⟩
  rw [value, abs_le]
  norm_num
  constructor <;> linarith

/-- The strength of the layer is a little more than a quarter. -/
theorem spans_coefficient : Spans coefficient (-2) (-1) := by
  obtain ⟨finite, error⟩ := abs_naturalLog_sub_log_le
  obtain ⟨low, high⟩ := log_thousand_bounds
  have near := abs_le.mp error
  have factor : Binary.ofFloat 1.5 = .finite false 6755399441055744 (-52) := by decide
  have divisor : Binary.ofFloat 40.0 = .finite false 5629499534213120 (-47) := by decide
  obtain ⟨factor_finite, factor_value⟩ := spec_of_parts factor
  obtain ⟨divisor_finite, divisor_value⟩ := spec_of_parts divisor
  norm_num at factor_value divisor_value
  have product := rounds_mul factor_finite finite
  rw [factor_value] at product
  have start : 0 ≤ 3 / 2 * toReal (naturalLog (1.0 / reflection)) := by linarith
  have bounded := product.isFinite_of_abs_le (n := 4) (by decide) (by decide) (by
    rw [abs_of_nonneg start]
    norm_num
    linarith)
  have rounded := product.abs_toReal_sub_le bounded
  rw [abs_of_nonneg start] at rounded
  have close := abs_le.mp rounded
  have quotient := rounds_div bounded divisor_finite (by rw [divisor_value]; norm_num)
  rw [divisor_value] at quotient
  -- The product is a little more than ten, by far more than rounding takes from it.
  apply quotient.spans (by decide) (by decide)
  · rw [le_div_iff₀ (by norm_num)]
    norm_num at close ⊢
    linarith
  · rw [div_le_iff₀ (by norm_num)]
    norm_num at close ⊢
    linarith

/-! ### The ramp -/

section Ramp

variable {distance width : ℕ} (inside : distance < width) (counted : width ≤ 2 ^ 64)
include inside counted

/-- At the place of a row the sine meets its bound. -/
theorem nearSine_position :
    NearSine (sine (2.0 * pi * position distance width)) (toReal (2.0 * pi * position distance width)) := by
  obtain ⟨angle, start, most, _⟩ := angle_spec (place_position inside counted)
  exact nearSine_sine angle start most

theorem bendAt_bounds :
    -2 ^ (-76 : ℤ) ≤ toReal (bendAt distance width) ∧ toReal (bendAt distance width) ≤ 1 + 1 / 2 ^ 48 := by
  have place := place_position inside counted
  have near := nearSine_position inside counted
  exact ⟨le_bend place near, bend_le place near⟩

theorem rounds_ramp :
    (ramp distance width).isFinite = true ∧
      toReal (ramp distance width) =
        Format.double.rounded (toReal coefficient * toReal (bendAt distance width)) := by
  have strength := spans_coefficient
  obtain ⟨bent, _⟩ := bend_spec (place_position inside counted) (nearSine_position inside counted)
  obtain ⟨low, high⟩ := bendAt_bounds inside counted
  have within : Within (bendAt distance width) 1 := by
    refine ⟨bent, ?_⟩
    norm_num at low ⊢
    rw [abs_le]
    constructor <;> linarith
  have product := strength.within.mul within (by decide) (by decide)
  rw [ramp_eq]
  exact ⟨product.finite, (rounds_mul strength.finite bent).toReal_eq product.finite⟩

/-- The share of a row is at most the strength of the layer, and hardly below zero. -/
theorem ramp_bounds :
    -2 ^ (-76 : ℤ) ≤ toReal (ramp distance width) ∧
      toReal (ramp distance width) ≤ toReal coefficient * (1 + 1 / 2 ^ 47) := by
  have strength := spans_coefficient
  have least := strength.lower
  have most := strength.upper
  obtain ⟨low, high⟩ := bendAt_bounds inside counted
  rw [(rounds_ramp inside counted).2]
  norm_num at least most
  constructor
  · rw [← Format.rounded_two_zpow (by decide : Format.double.least ≤ -76), ← Format.rounded_neg]
    apply Format.rounded_mono
    have small : (0 : ℝ) ≤ 2 ^ (-76 : ℤ) := (zpow_pos two_pos _).le
    nlinarith
  · have scaled := mul_le_mul_of_nonneg_left high strength.pos.le
    have kept := rounded_le_of_le (mul_nonneg strength.pos.le (by norm_num)) scaled
    norm_num at kept ⊢
    linarith

/-- In a layer that is not very wide no share is below zero. -/
theorem ramp_nonneg (narrow : width ≤ 2 ^ 26) : 0 ≤ toReal (ramp distance width) := by
  have bent := bend_nonneg (place_position inside counted) (nearSine_position inside counted)
    (le_position inside counted narrow)
  rw [(rounds_ramp inside counted).2]
  apply Format.rounded_nonneg
  exact mul_nonneg spans_coefficient.pos.le bent

end Ramp

/-- The share of the outermost row is the strength of the layer, up to rounding. -/
theorem le_ramp_zero {width : ℕ} (positive : 0 < width) (counted : width ≤ 2 ^ 64) :
    toReal coefficient * (1 - 1 / 2 ^ 47) ≤ toReal (ramp 0 width) := by
  have strength := spans_coefficient
  have least := strength.lower
  have most := strength.upper
  have full : 1 - 1 / 2 ^ 48 ≤ toReal (bendAt 0 width) :=
    le_bend_of_le (place_position positive counted) (nearSine_position positive counted)
      (le_position_zero positive counted)
  have scaled := mul_le_mul_of_nonneg_left full strength.pos.le
  have kept := (abs_le.mp (Format.abs_double_rounded_sub_le (toReal coefficient * (1 - 1 / 2 ^ 48)))).1
  rw [(rounds_ramp positive counted).2]
  rw [abs_of_nonneg (mul_nonneg strength.pos.le (by norm_num))] at kept
  norm_num at least most
  apply le_trans _ (Format.rounded_mono scaled)
  linarith

end WaveMedium.Absorption
