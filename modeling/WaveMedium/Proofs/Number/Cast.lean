/-
Module: WaveMedium.Proofs.Number.Cast
Purpose: Storing a value rounds it to the nearest number of the precision.
Main exports:
  Precision.format, rounds_cast, isNaN_cast, cast_idempotent, Within.cast, Spans.cast
-/
import Mathlib
import WaveMedium.Number.Precision
import WaveMedium.Proofs.Number.Size
import WaveMedium.Proofs.Number.Whole

namespace WaveMedium

open Number

/-- The format of a precision. -/
def Precision.format : Precision → Format
  | .single => .single
  | .double => .double

instance (precision : Precision) : NeZero precision.format.digits := by
  cases precision <;> exact ⟨by decide⟩

namespace Number

theorem toFloat_infinite (negative : Bool) :
    (Binary.infinite negative).toFloat = if negative then negativeInfinity else positiveInfinity := by
  apply ofFloat_injective
  cases negative <;> decide

/-- A multiple of a spacing is too large for a format exactly if its leading digit is beyond the top. -/
theorem two_zpow_top_le_iff {format : Format} {n : ℕ} {g : ℤ} (nonzero : 0 < n) :
    (2 : ℝ) ^ format.top ≤ n * 2 ^ g ↔ format.top ≤ n.log2 + g := by
  have positive : (0 : ℝ) < n * 2 ^ g := mul_pos (Nat.cast_pos.mpr nonzero) (zpow_pos two_pos _)
  rw [← Format.log_mul_two_zpow nonzero]
  constructor
  · exact Format.le_log_of_le positive
  · intro high
    exact (zpow_le_zpow_right₀ one_le_two high).trans (Format.zpow_log_le positive)

theorem round_finite (format : Format) (negative : Bool) (m : ℕ) (q : ℤ) :
    format.round (.finite negative m q) =
      if format.top ≤ (format.nearest m q).1.log2 + (format.nearest m q).2 then .infinite negative
      else .finite negative (format.nearest m q).1 (format.nearest m q).2 := rfl

/-- Rounding the parts of a number to single precision and writing them gives the number nearest to it. -/
theorem rounds_single (negative : Bool) (m : ℕ) (q : ℤ) :
    Rounds .single (Format.single.round (.finite negative m q)).toFloat
      (Binary.finite negative m q).toReal := by
  have few : (Format.single.nearest m q).1 ≤ 2 ^ 24 := Format.nearest_le m q
  have least : -149 ≤ (Format.single.nearest m q).2 := Format.least_le_nearest m q
  have full : -149 < (Format.single.nearest m q).2 → 2 ^ 23 ≤ (Format.single.nearest m q).1 :=
    Format.le_nearest m q
  have near := Format.single.rounded_nearest m q
  have signed := Format.single.rounded_toReal_finite negative m q
  have absolute : |Format.single.rounded (Binary.finite negative m q).toReal| =
      (Format.single.nearest m q).1 * 2 ^ (Format.single.nearest m q).2 := by
    rw [signed, Binary.abs_toReal_finite]
  have above := mul_zpow_nonneg m q
  rw [round_finite]
  generalize Format.single.nearest m q = nearest at *
  obtain ⟨k, g⟩ := nearest
  dsimp only at *
  by_cases high : Format.single.top ≤ k.log2 + g
  · have nonzero : 0 < k := by
      apply Nat.pos_of_ne_zero
      rintro rfl
      have top : Format.single.top = 128 := rfl
      rw [Nat.log2_zero, top] at high
      omega
    have large := (two_zpow_top_le_iff nonzero).mpr high
    have positive : (0 : ℝ) < m * 2 ^ q := by
      apply above.lt_of_ne
      intro vanishes
      rw [← vanishes, Format.rounded_zero] at near
      exact (zpow_pos two_pos _).not_ge (near ▸ large)
    rw [if_pos high, toFloat_infinite]
    apply Rounds.of_le (large.trans_eq absolute.symm)
    rw [Binary.toReal_finite]
    cases negative with
    | false => simp [above]
    | true => simp [positive.not_ge]
  · have small : (k : ℝ) * 2 ^ g < 2 ^ Format.single.top := by
      rcases k.eq_zero_or_pos with rfl | nonzero
      · simp [zpow_pos]
      · exact not_le.mp (mt (two_zpow_top_le_iff nonzero).mp high)
    rw [if_neg high]
    apply Rounds.of_lt (absolute.trans_lt small)
    rw [signed]
    apply toReal_toFloat
    · exact Format.rounded_of_multiple (by change k < 2 ^ 53; omega) (by change -1074 ≤ g; omega)
    · exact small.trans_le (zpow_le_zpow_right₀ one_le_two (by decide))

/-- Storing a finite value rounds it to the nearest number of the precision. -/
theorem rounds_cast (precision : Precision) {x : Float} (finite : x.isFinite = true) :
    Rounds precision.format (precision.cast x) (toReal x) := by
  cases precision with
  | double => exact rounds_self finite
  | single =>
      obtain ⟨negative, m, q, parts⟩ := isFinite_iff.mp finite
      have rounds := rounds_single negative m q
      rwa [← parts] at rounds

theorem ofFloat_of_isNaN {x : Float} (undefined : x.isNaN = true) : Binary.ofFloat x = .notANumber := by
  rw [ofFloat_eq_ofUnpacked]
  change x.toModel.unpack.isNaN = true at undefined
  cases unpacked : x.toModel.unpack with
  | notANumber => rfl
  | infinity s =>
      rw [unpacked] at undefined
      cases undefined
  | zero s =>
      rw [unpacked] at undefined
      cases undefined
  | finite s m e _ =>
      rw [unpacked] at undefined
      cases undefined

/-- Storing a value leaves open whether it is a number. -/
@[simp] theorem isNaN_cast (precision : Precision) (x : Float) : (precision.cast x).isNaN = x.isNaN := by
  cases precision with
  | double => rfl
  | single =>
      cases undefined : x.isNaN with
      | true =>
          rw [Precision.cast, ofFloat_of_isNaN undefined]
          decide
      | false =>
          by_cases finite : x.isFinite = true
          · exact (rounds_cast .single finite).isNaN_eq_false
          · rcases eq_infinity_of_not_isFinite undefined finite with rfl | rfl
            · decide
            · decide

/-! ### Storing twice -/

theorem cast_infinity (precision : Precision) :
    precision.cast positiveInfinity = positiveInfinity ∧
      precision.cast negativeInfinity = negativeInfinity := by
  cases precision <;> decide

theorem cast_zero (precision : Precision) :
    precision.cast 0.0 = 0.0 ∧ precision.cast (-0.0) = -0.0 := by
  cases precision with
  | double => exact ⟨rfl, rfl⟩
  | single => decide +kernel

/-- What is a number of the precision is stored as it is. -/
theorem cast_of_rounded {precision : Precision} {x : Float} (finite : x.isFinite = true)
    (kept : precision.format.rounded (toReal x) = toReal x)
    (small : |toReal x| < 2 ^ precision.format.top) : precision.cast x = x := by
  obtain ⟨bounded, same⟩ := (rounds_cast precision finite).spec_of_rounded kept small
  have places : place (precision.cast x) = place x := by
    apply le_antisymm
    · exact not_lt.mp (mt (place_lt_iff_toReal_lt finite bounded).mp same.not_gt)
    · exact not_lt.mp (mt (place_lt_iff_toReal_lt bounded finite).mp same.not_lt)
  rcases sameNumber_of_place_eq places with equal | ⟨_, rfl | rfl⟩
  · exact equal
  · exact (cast_zero precision).1
  · exact (cast_zero precision).2

/-- Storing a stored value does not change it. -/
@[simp] theorem cast_idempotent (precision : Precision) (x : Float) :
    precision.cast (precision.cast x) = precision.cast x := by
  by_cases finite : x.isFinite = true
  · have rounds := rounds_cast precision finite
    by_cases bounded : (precision.cast x).isFinite = true
    · have value := rounds.toReal_eq bounded
      apply cast_of_rounded bounded
      · rw [value, Format.rounded_rounded]
      · rw [value]
        exact rounds.isFinite_iff.mp bounded
    · rw [rounds.eq_infinity bounded]
      split
      · exact (cast_infinity precision).1
      · exact (cast_infinity precision).2
  · cases number : x.isNaN with
    | false =>
        rcases eq_infinity_of_not_isFinite number finite with rfl | rfl
        · rw [(cast_infinity precision).1, (cast_infinity precision).1]
        · rw [(cast_infinity precision).2, (cast_infinity precision).2]
    | true =>
        have undefined : (precision.cast x).isNaN = true := (isNaN_cast precision x).trans number
        rw [Float.isNaN_eq_decide_eq_nan, decide_eq_true_iff] at number undefined
        rw [number] at undefined ⊢
        rw [undefined, undefined]

/-! ### The size of what is stored -/

section Size

variable (precision : Precision)

theorem least_le_of_precision : precision.format.least ≤ -149 := by
  cases precision <;> decide

theorem le_top_of_precision : 128 ≤ precision.format.top := by
  cases precision <;> decide

variable {x : Float} {l u n : ℤ}

theorem Within.cast (within : Within x n) (least : -149 ≤ n) (most : n < 128) :
    Within (precision.cast x) n :=
  (rounds_cast precision within.finite).within ((least_le_of_precision precision).trans least)
    (most.trans_le (le_top_of_precision precision)) within.bound

theorem Spans.cast (spans : Spans x l u) (least : -149 ≤ l) (most : u < 128) :
    Spans (precision.cast x) l u :=
  (rounds_cast precision spans.finite).spans ((least_le_of_precision precision).trans least)
    (most.trans_le (le_top_of_precision precision)) spans.lower spans.upper

end Size

end Number

end WaveMedium
