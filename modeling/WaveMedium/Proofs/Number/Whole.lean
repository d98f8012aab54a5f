/-
Module: WaveMedium.Proofs.Number.Whole
Purpose: Operations on doubles that round nothing: whole parts, the nearest whole number, the absolute
  value and the larger of two.
Main exports:
  floor_spec, nearest_spec, abs_spec, larger_spec
-/
import Mathlib
import WaveMedium.Proofs.Number.Arithmetic

namespace WaveMedium.Number

open Float.Model (UnpackedFloat)

/-! ### Values that are written without loss -/

section Write

variable {negative : Bool} {m : ℕ} {q : ℤ}

/-- Writing a value that rounding keeps loses nothing. -/
theorem toReal_toFloat (kept : Format.double.rounded (m * 2 ^ q) = m * 2 ^ q)
    (small : (m : ℝ) * 2 ^ q < 2 ^ (1024 : ℤ)) :
    (Binary.finite negative m q).toFloat.isFinite = true ∧
      toReal (Binary.finite negative m q).toFloat = (Binary.finite negative m q).toReal := by
  have same : Format.double.rounded (Binary.finite negative m q).toReal =
      (Binary.finite negative m q).toReal := by
    cases negative with
    | false => simpa [Binary.toReal_finite] using kept
    | true => simpa [Binary.toReal_finite] using kept
  apply (rounds_toFloat negative m q).spec_of_rounded same
  rw [Binary.abs_toReal_finite]
  exact small

/-- Whole numbers with at most 53 digits are written without loss. -/
theorem toReal_toFloat_whole (few : m < 2 ^ 53) :
    (Binary.finite negative m 0).toFloat.isFinite = true ∧
      toReal (Binary.finite negative m 0).toFloat = (Binary.finite negative m 0).toReal := by
  have kept : Format.double.rounded ((m : ℝ) * 2 ^ (0 : ℤ)) = m * 2 ^ (0 : ℤ) :=
    Format.rounded_of_multiple few (by decide)
  refine toReal_toFloat kept ?_
  calc (m : ℝ) * 2 ^ (0 : ℤ)
    _ = m := by rw [zpow_zero, mul_one]
    _ < 2 ^ (53 : ℤ) := by exact_mod_cast few
    _ ≤ 2 ^ (1024 : ℤ) := zpow_le_zpow_right₀ one_le_two (by decide)

end Write

/-! ### Whole parts -/

/-- A number with a negative exponent is a quotient by a power of two. -/
theorem mul_zpow_eq_div (m : ℕ) {q : ℤ} (below : q < 0) :
    (m : ℝ) * 2 ^ q = m / (2 ^ (-q).toNat : ℕ) := by
  obtain ⟨k, rfl⟩ : ∃ k : ℕ, q = -(k : ℤ) := ⟨(-q).toNat, by omega⟩
  rw [zpow_neg, zpow_natCast, neg_neg, Int.toNat_natCast, div_eq_mul_inv]
  push_cast
  rfl

/-- A number whose exponent is not negative is whole. -/
theorem exists_natCast_eq_mul_zpow (m : ℕ) {q : ℤ} (above : 0 ≤ q) : ∃ n : ℕ, (m : ℝ) * 2 ^ q = n := by
  obtain ⟨k, rfl⟩ : ∃ k : ℕ, q = k := ⟨q.toNat, by omega⟩
  refine ⟨m * 2 ^ k, ?_⟩
  push_cast
  rfl

theorem floor_add_half (m : ℕ) {d : ℕ} (positive : 0 < d) :
    ⌊(m : ℝ) / d + 1 / 2⌋₊ = (2 * m + d) / (2 * d) := by
  have unit : (d : ℝ) ≠ 0 := (Nat.cast_pos.mpr positive).ne'
  have quotient : (m : ℝ) / d + 1 / 2 = (2 * m + d : ℕ) / (2 * d : ℕ) := by
    push_cast
    field_simp
  rw [quotient, Nat.floor_div_eq_div]

/-- A count is written without loss, with the sign of a number that is not below zero. -/
theorem toReal_toFloat_count {negative : Bool} {n : ℕ} (few : n < 2 ^ 53) (sign : negative = true → n = 0) :
    (Binary.finite negative n 0).toFloat.isFinite = true ∧
      toReal (Binary.finite negative n 0).toFloat = n := by
  have value : (Binary.finite negative n 0).toReal = n := by
    cases negative with
    | false => simp [Binary.toReal_finite]
    | true => simp [Binary.toReal_finite, sign rfl]
  rw [← value]
  exact toReal_toFloat_whole few

/-- The parts of a double are written as that double. -/
theorem toReal_toFloat_ofFloat {x : Float} {negative : Bool} {m : ℕ} {q : ℤ}
    (parts : Binary.ofFloat x = .finite negative m q) (canonical : Canonical m q) :
    (Binary.finite negative m q).toFloat.isFinite = true ∧
      toReal (Binary.finite negative m q).toFloat = toReal x := by
  have value : (Binary.finite negative m q).toReal = toReal x := by rw [← parts, toReal]
  rw [← value]
  exact toReal_toFloat canonical.rounded canonical.mul_zpow_lt

@[simp] theorem floor_natCast_add_half (n : ℕ) : ⌊(n : ℝ) + 1 / 2⌋₊ = n := by
  rw [Nat.floor_eq_iff (by positivity)]
  constructor <;> linarith

section Whole

variable {x : Float} (finite : x.isFinite = true) (above : 0 ≤ toReal x)
include finite above

/-- The parts of a double that is not below zero: only zero can have a minus sign. -/
theorem exists_parts_of_nonneg :
    ∃ negative m q, Binary.ofFloat x = .finite negative m q ∧ Canonical m q ∧
      toReal x = m * 2 ^ q ∧ (negative = true → m = 0) := by
  obtain ⟨negative, m, q, parts, canonical, _⟩ := exists_canonical finite
  have value := toReal_of_ofFloat parts
  have size := mul_zpow_nonneg m q
  cases negative with
  | false => exact ⟨_, m, q, parts, canonical, value, nofun⟩
  | true =>
      have vanishes : (m : ℝ) * 2 ^ q = 0 := by
        rw [if_pos rfl] at value
        linarith
      refine ⟨_, m, q, parts, canonical, by simp [value, vanishes], fun _ => ?_⟩
      simpa [zpow_ne_zero] using vanishes

theorem floor_spec :
    (Scalar.floor x).isFinite = true ∧ toReal (Scalar.floor x) = ⌊toReal x⌋₊ := by
  obtain ⟨negative, m, q, parts, canonical, value, sign⟩ := exists_parts_of_nonneg finite above
  change (Binary.ofFloat x).floor.toFloat.isFinite = true ∧
    toReal (Binary.ofFloat x).floor.toFloat = _
  rw [parts, Binary.floor]
  split
  · rename_i whole
    obtain ⟨n, same⟩ := exists_natCast_eq_mul_zpow m whole
    rw [value, same, Nat.floor_natCast, ← same, ← value]
    exact toReal_toFloat_ofFloat parts canonical
  · rename_i fraction
    have below : q < 0 := Int.not_le.mp fraction
    have few : m / 2 ^ (-q).toNat < 2 ^ 53 := (Nat.div_le_self _ _).trans_lt canonical.small
    have unit : 0 < 2 ^ (-q).toNat := Nat.two_pow_pos _
    have count : (if negative then (m + 2 ^ (-q).toNat - 1) / 2 ^ (-q).toNat else m / 2 ^ (-q).toNat) =
        m / 2 ^ (-q).toNat := by
      cases negative with
      | false => rfl
      | true =>
          rw [sign rfl, if_pos rfl, Nat.zero_add, Nat.zero_div]
          exact Nat.div_eq_of_lt (by omega)
    rw [value, mul_zpow_eq_div m below, Nat.floor_div_eq_div]
    simp only [Nat.pow_eq, count]
    apply toReal_toFloat_count few
    intro minus
    rw [sign minus, Nat.zero_div]

theorem nearest_spec :
    (Scalar.nearest x).isFinite = true ∧ toReal (Scalar.nearest x) = ⌊toReal x + 1 / 2⌋₊ := by
  obtain ⟨negative, m, q, parts, canonical, value, sign⟩ := exists_parts_of_nonneg finite above
  change (Binary.ofFloat x).nearestInteger.toFloat.isFinite = true ∧
    toReal (Binary.ofFloat x).nearestInteger.toFloat = _
  rw [parts, Binary.nearestInteger]
  split
  · rename_i whole
    obtain ⟨n, same⟩ := exists_natCast_eq_mul_zpow m whole
    rw [value, same, floor_natCast_add_half, ← same, ← value]
    exact toReal_toFloat_ofFloat parts canonical
  · rename_i fraction
    have below : q < 0 := Int.not_le.mp fraction
    have unit : 2 ≤ 2 ^ (-q).toNat := Nat.le_self_pow (by omega) 2
    have few : (2 * m + 2 ^ (-q).toNat) / (2 * 2 ^ (-q).toNat) < 2 ^ 53 := by
      have small := canonical.small
      rw [Nat.div_lt_iff_lt_mul (by omega)]
      omega
    rw [value, mul_zpow_eq_div m below, floor_add_half m (Nat.two_pow_pos _)]
    apply toReal_toFloat_count few
    intro minus
    rw [sign minus]
    exact Nat.div_eq_of_lt (by omega)

end Whole

/-! ### Absolute values and the larger of two -/

section Abs

variable {x y : Float}

theorem abs_spec (finite : x.isFinite = true) : x.abs.isFinite = true ∧ toReal x.abs = |toReal x| := by
  have absolute : x.abs.toModel = Float.Model.pack x.toModel.unpack.abs := rfl
  have rounds : Rounds .double x.abs |toReal x| := by
    rcases zero_or_canonical finite with ⟨s, parts, value⟩ | ⟨s, m, e, nonzero, parts, canonical, value⟩
    · rw [parts] at absolute
      rw [value, abs_zero]
      exact rounds_zero absolute
    · rw [parts] at absolute
      have size : |toReal x| = unit .positive * (m * 2 ^ e) := by
        rw [value, abs_mul, abs_of_nonneg (mul_zpow_nonneg m e)]
        cases s <;> simp [unit]
      rw [size]
      exact rounds_of_canonical canonical absolute
  have kept : Format.double.rounded |toReal x| = |toReal x| := by
    rw [← Format.abs_rounded, rounded_toReal finite]
  apply rounds.spec_of_rounded kept
  rw [abs_abs]
  exact abs_toReal_lt finite

/-- The larger of two finite doubles is one of them. -/
theorem larger_spec (left : x.isFinite = true) (right : y.isFinite = true) :
    (larger x y).isFinite = true ∧ toReal (larger x y) = max (toReal x) (toReal y) := by
  have less := lt_iff_toReal_lt left right
  rw [larger, isNaN_eq_false_of_isFinite left, Bool.false_or]
  by_cases below : x < y
  · rw [decide_eq_true below, if_pos rfl, max_eq_right (less.mp below).le]
    exact ⟨right, rfl⟩
  · rw [decide_eq_false below, if_neg Bool.false_ne_true, max_eq_left (not_lt.mp (mt less.mpr below))]
    exact ⟨left, rfl⟩

end Abs

end WaveMedium.Number
