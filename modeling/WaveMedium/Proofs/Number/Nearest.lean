/-
Module: WaveMedium.Proofs.Number.Nearest
Purpose: Which double is the number of a format nearest to a real number.
Main exports:
  Rounds, Rounds.mono, Rounds.isFinite_of_abs_le, Rounds.toReal_eq, rounds_toFloat
-/
import Mathlib
import WaveMedium.Proofs.Number.Value
import WaveMedium.Tensor.Extrema

namespace WaveMedium.Number

/-! ### Counts of spacings -/

/-- Mantissa and exponent for a count of spacings: one that is a digit too long is given the next
exponent. -/
def carry (count : Nat) (exponent : Int) : Nat × Int :=
  if count < 2 ^ 53 then (count, exponent) else (2 ^ 52, exponent + 1)

section Carry

variable {n : Nat} {g : Int}

theorem fitted_carry (least : -1074 ≤ g) (many : -1074 < g → 2 ^ 52 ≤ n) :
    Fitted (carry n g).1 (carry n g).2 := by
  unfold carry
  split
  · rename_i short
    refine ⟨short, least, ?_⟩
    rcases least.lt_or_eq with coarse | same
    · exact .inl (many coarse)
    · exact .inr same.symm
  · exact ⟨by norm_num, by omega, .inl le_rfl⟩

theorem carry_mul_zpow (few : n ≤ 2 ^ 53) : ((carry n g).1 : ℝ) * 2 ^ (carry n g).2 = n * 2 ^ g := by
  unfold carry
  split
  · rfl
  · rename_i long
    rw [le_antisymm few (Nat.not_lt.mp long), zpow_add_one₀ two_ne_zero]
    push_cast
    ring

theorem magnitude_carry (least : -1074 ≤ g) (few : n ≤ 2 ^ 53) :
    magnitude (carry n g).1 (carry n g).2 = magnitude n g := by
  unfold carry
  split
  · rfl
  · simp only [magnitude, Nat.pow_eq]
    omega

end Carry

/-- The nearest number of the format has parts that fit. -/
theorem fitted_count {r : ℝ} (positive : 0 < r) :
    Fitted (carry (Format.double.count r) (Format.double.grain r)).1
      (carry (Format.double.count r) (Format.double.grain r)).2 :=
  fitted_carry (le_max_right _ _) fun coarse => Format.double.le_count positive coarse

/-! ### The infinities -/

theorem ofFloat_infinity (negative : Bool) :
    Binary.ofFloat (if negative then negativeInfinity else positiveInfinity) = .infinite negative := by
  cases negative <;> decide

/-- Positive infinity is the last place on the line of doubles. -/
theorem positiveInfinity_spec :
    place positiveInfinity = infinityBits ∧ positiveInfinity.isNaN = false ∧
      positiveInfinity.isFinite = false := by decide

/-- Negative infinity is the first place on the line of doubles. -/
theorem negativeInfinity_spec :
    place negativeInfinity = -(infinityBits : Int) ∧ negativeInfinity.isNaN = false ∧
      negativeInfinity.isFinite = false := by decide

/-! ### The nearest double -/

/-- A double is the number of a format nearest to a real number, or infinite where that is too large. -/
structure Rounds (format : Format) (x : Float) (r : ℝ) : Prop where
  inside : |format.rounded r| < 2 ^ format.top → x.isFinite = true ∧ toReal x = format.rounded r
  beyond : 2 ^ format.top ≤ |format.rounded r| → x = if 0 ≤ r then positiveInfinity else negativeInfinity

section Rounds

variable {format : Format} {x : Float} {r : ℝ}

theorem Rounds.of_lt (small : |format.rounded r| < 2 ^ format.top)
    (spec : x.isFinite = true ∧ toReal x = format.rounded r) : Rounds format x r where
  inside _ := spec
  beyond large := absurd small large.not_gt

theorem Rounds.of_le (large : 2 ^ format.top ≤ |format.rounded r|)
    (endless : x = if 0 ≤ r then positiveInfinity else negativeInfinity) : Rounds format x r where
  inside small := absurd small large.not_gt
  beyond _ := endless

/-- What rounds a number of the format is this number. -/
theorem Rounds.spec_of_rounded (rounds : Rounds format x r) (kept : format.rounded r = r)
    (small : |r| < 2 ^ format.top) : x.isFinite = true ∧ toReal x = r := by
  have spec := rounds.inside
  rw [kept] at spec
  exact spec small

end Rounds

/-- A number that fits too high is at least the first power of two beyond the doubles. -/
theorem Fitted.le_mul_zpow {k : Nat} {f : Int} (fitted : Fitted k f) (beyond : 971 < f) :
    (2 : ℝ) ^ (1024 : ℤ) ≤ k * 2 ^ f := by
  have full : (2 ^ 52 : ℕ) ≤ k := fitted.normal.resolve_right (by omega)
  calc (2 : ℝ) ^ (1024 : ℤ)
    _ ≤ 2 ^ ((52 : ℕ) + f) := zpow_le_zpow_right₀ one_le_two (by omega)
    _ = (2 ^ 52 : ℕ) * 2 ^ f := by
      rw [zpow_add₀ two_ne_zero, zpow_natCast]
      norm_num
    _ ≤ k * 2 ^ f := mul_le_mul_of_nonneg_right (Nat.cast_le.mpr full) (zpow_nonneg two_pos.le _)

/-- A double with the parts of the nearest number rounds it. -/
theorem rounds_of_fitted {x : Float} {negative : Bool} {k : Nat} {f : Int} {r : ℝ} (above : 0 ≤ r)
    (fitted : Fitted k f) (size : (k : ℝ) * 2 ^ f = Format.double.rounded r)
    (inside : f ≤ 971 → Binary.ofFloat x = .finite negative k f)
    (beyond : 971 < f → Binary.ofFloat x = .infinite negative) :
    Rounds .double x (if negative then -r else r) := by
  have absolute : |Format.double.rounded (if negative then -r else r)| = k * 2 ^ f := by
    rw [size, Format.abs_rounded]
    cases negative with
    | false => rw [if_neg Bool.false_ne_true, abs_of_nonneg above]
    | true => rw [if_pos rfl, abs_neg, abs_of_nonneg above]
  by_cases most : f ≤ 971
  · have parts := inside most
    have canonical : Canonical k f := ⟨fitted, most⟩
    apply Rounds.of_lt (absolute.trans_lt canonical.mul_zpow_lt)
    refine ⟨isFinite_iff.mpr ⟨_, _, _, parts⟩, ?_⟩
    rw [toReal_of_ofFloat parts, size]
    cases negative with
    | false => rfl
    | true => exact (Format.double.rounded_neg r).symm
  · have large := fitted.le_mul_zpow (Int.not_le.mp most)
    apply Rounds.of_le (large.trans_eq absolute.symm)
    apply ofFloat_injective
    rw [beyond (Int.not_le.mp most)]
    have positive : 0 < r := by
      rcases above.eq_or_lt with rfl | positive
      · rw [size, Format.rounded_zero] at large
        exact absurd (zpow_pos two_pos (1024 : ℤ)) large.not_gt
      · exact positive
    rw [← ofFloat_infinity negative]
    cases negative with
    | false => simp [positive.le]
    | true => simp [positive.not_ge]

/-- A decoded number is written as the double nearest to it. -/
theorem rounds_toFloat (negative : Bool) (m : Nat) (q : Int) :
    Rounds .double (Binary.finite negative m q).toFloat (Binary.finite negative m q).toReal := by
  have few : (Format.double.nearest m q).1 ≤ 2 ^ 53 := Format.nearest_le m q
  have least : -1074 ≤ (Format.double.nearest m q).2 := Format.least_le_nearest m q
  have size := (carry_mul_zpow few).trans (Format.rounded_nearest m q).symm
  have fitted : Fitted _ _ := fitted_carry least (Format.le_nearest m q)
  have bits := magnitude_carry least few
  have written : Binary.ofFloat (Binary.finite negative m q).toFloat =
      .ofBits (signBit negative +
        min (magnitude (Format.double.nearest m q).1 (Format.double.nearest m q).2) infinityBits) := by
    have below : min (magnitude (Format.double.nearest m q).1 (Format.double.nearest m q).2)
        infinityBits < 2 ^ 63 := (Nat.min_le_right _ _).trans_lt infinityBits_lt
    have bound := signBit_add_lt below negative
    change Binary.ofFloat (Float.ofBits (UInt64.ofNat _)) = _
    rw [ofFloat_ofBits, UInt64.toNat_ofNat', Nat.mod_eq_of_lt]
    · rfl
    · exact bound
  rw [← bits] at written
  apply rounds_of_fitted (mul_zpow_nonneg m q) fitted size
  · intro most
    have canonical : Canonical _ _ := ⟨fitted, most⟩
    rw [written, Nat.min_eq_left canonical.magnitude_lt.le, ofBits_magnitude canonical]
  · intro beyond
    rw [written, Nat.min_eq_right (fitted.le_magnitude beyond), ofBits_infinityBits]

/-! ### What the nearest double keeps -/

theorem le_positiveInfinity {x : Float} (number : x.isNaN = false) : x ≤ positiveInfinity := by
  obtain ⟨top, endless, _⟩ := positiveInfinity_spec
  rw [le_iff_not_lt number endless, lt_iff_place endless number, top]
  exact (place_bounds number).2.not_gt

theorem negativeInfinity_le {x : Float} (number : x.isNaN = false) : negativeInfinity ≤ x := by
  obtain ⟨bottom, endless, _⟩ := negativeInfinity_spec
  rw [le_iff_not_lt endless number, lt_iff_place number endless, bottom]
  exact (place_bounds number).1.not_gt

/-- A finite double is the one nearest to what it stands for. -/
theorem rounds_self {x : Float} (finite : x.isFinite = true) : Rounds .double x (toReal x) := by
  have kept := rounded_toReal finite
  apply Rounds.of_lt
  · rw [kept]
    exact abs_toReal_lt finite
  · exact ⟨finite, kept.symm⟩

namespace Rounds

variable {format : Format} {x y : Float} {r s : ℝ}

theorem isFinite_iff (rounds : Rounds format x r) :
    x.isFinite = true ↔ |format.rounded r| < 2 ^ format.top := by
  rcases lt_or_ge |format.rounded r| (2 ^ format.top) with small | large
  · exact ⟨fun _ => small, fun _ => (rounds.inside small).1⟩
  · have endless : x.isFinite = false := by
      rw [rounds.beyond large]
      split
      · exact positiveInfinity_spec.2.2
      · exact negativeInfinity_spec.2.2
    rw [endless]
    exact ⟨nofun, fun small => absurd small large.not_gt⟩

theorem toReal_eq (rounds : Rounds format x r) (finite : x.isFinite = true) :
    toReal x = format.rounded r := (rounds.inside (rounds.isFinite_iff.mp finite)).2

theorem eq_infinity (rounds : Rounds format x r) (endless : ¬ x.isFinite = true) :
    x = if 0 ≤ r then positiveInfinity else negativeInfinity :=
  rounds.beyond (not_lt.mp (mt rounds.isFinite_iff.mpr endless))

theorem isNaN_eq_false (rounds : Rounds format x r) : x.isNaN = false := by
  by_cases finite : x.isFinite = true
  · exact isNaN_eq_false_of_isFinite finite
  · rw [rounds.eq_infinity finite]
    split
    · exact positiveInfinity_spec.2.1
    · exact negativeInfinity_spec.2.1

variable [NeZero format.digits]

/-- Below the last power of two nothing becomes infinite. -/
theorem isFinite_of_abs_le (rounds : Rounds format x r) {n : ℤ} (least : format.least ≤ n)
    (most : n < format.top) (bound : |r| ≤ 2 ^ n) : x.isFinite = true := by
  apply rounds.isFinite_iff.mpr
  calc |format.rounded r|
    _ ≤ 2 ^ n := Format.abs_rounded_le_two_zpow least bound
    _ < 2 ^ format.top := zpow_lt_zpow_right₀ one_lt_two most

/-- The nearest doubles are ordered as the real numbers are. -/
theorem mono (left : Rounds format x r) (right : Rounds format y s) (le : r ≤ s) : x ≤ y := by
  have rounded : format.rounded r ≤ format.rounded s :=
    Format.rounded_mono le
  by_cases finite : x.isFinite = true
  · by_cases other : y.isFinite = true
    · rw [le_iff_toReal_le finite other, left.toReal_eq finite, right.toReal_eq other]
      exact rounded
    · rw [right.eq_infinity other]
      split
      · exact le_positiveInfinity left.isNaN_eq_false
      · rename_i below
        have large := mt right.isFinite_iff.mpr other
        have small := left.isFinite_iff.mp finite
        have under : format.rounded s ≤ 0 := by
          rw [← Format.rounded_zero format]
          exact Format.rounded_mono (not_le.mp below).le
        rw [abs_of_nonpos under] at large
        rw [abs_of_nonpos (rounded.trans under)] at small
        linarith
  · rw [left.eq_infinity finite]
    split
    · rename_i above
      have large := mt left.isFinite_iff.mpr finite
      have start : 0 ≤ format.rounded r := Format.rounded_nonneg _ above
      rw [abs_of_nonneg start] at large
      have other : ¬ y.isFinite = true := by
        intro other
        have small := right.isFinite_iff.mp other
        rw [abs_of_nonneg (start.trans rounded)] at small
        linarith
      rw [right.eq_infinity other, if_pos (above.trans le)]
      exact le_positiveInfinity positiveInfinity_spec.2.1
    · exact negativeInfinity_le right.isNaN_eq_false

/-- What is not larger than a finite double is rounded to a finite one. -/
theorem isFinite_of_abs_le_toReal (rounds : Rounds .double x r) (finite : y.isFinite = true)
    (le : |r| ≤ |toReal y|) : x.isFinite = true := by
  apply rounds.isFinite_iff.mpr
  calc |Format.double.rounded r|
    _ = Format.double.rounded |r| := Format.abs_rounded _ r
    _ ≤ Format.double.rounded |toReal y| := Format.rounded_mono le
    _ = |toReal y| := by rw [← Format.abs_rounded, rounded_toReal finite]
    _ < 2 ^ (1024 : ℤ) := abs_toReal_lt finite

end Rounds

end WaveMedium.Number
