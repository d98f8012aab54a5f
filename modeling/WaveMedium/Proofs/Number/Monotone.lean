/-
Module: WaveMedium.Proofs.Number.Monotone
Purpose: Order of sums, differences, products, quotients, roots and stored values, where zero and infinity
  are admitted.
Main exports:
  le_iff_place, le_of_le_of_le, add_le_of_nonpos, difference_pos, difference_le, mul_eq_zero_or_lt,
  product_le, quotient_le, root_le, cast_mono
-/
import Mathlib
import WaveMedium.Proofs.Number.Cast

namespace WaveMedium.Number

open Float.Model (UnpackedFloat)
open Float.Model.UnpackedFloat (Sign)

/-! ### The order of doubles -/

section Order

variable {x y z : Float}

theorem le_iff_place (left : x.isNaN = false) (right : y.isNaN = false) : x ≤ y ↔ place x ≤ place y := by
  rw [le_iff_not_lt left right, lt_iff_place right left, not_lt]

theorem le_self (number : x.isNaN = false) : x ≤ x := (le_iff_place number number).mpr le_rfl

theorem le_of_le_of_le (lower : x ≤ y) (upper : y ≤ z) : x ≤ z := by
  obtain ⟨left, middle⟩ := isNaN_eq_false_of_le lower
  have right := (isNaN_eq_false_of_le upper).2
  rw [le_iff_place left middle] at lower
  rw [le_iff_place middle right] at upper
  exact (le_iff_place left right).mpr (lower.trans upper)

theorem lt_of_lt_of_le (lower : x < y) (upper : y ≤ z) : x < z := by
  obtain ⟨left, middle⟩ := isNaN_eq_false_of_lt lower
  have right := (isNaN_eq_false_of_le upper).2
  rw [lt_iff_place left middle] at lower
  rw [le_iff_place middle right] at upper
  exact (lt_iff_place left right).mpr (lower.trans_le upper)

theorem not_le_of_lt (less : x < y) : ¬ y ≤ x := by
  obtain ⟨left, right⟩ := isNaN_eq_false_of_lt less
  exact fun le => (le_iff_not_lt right left).mp le less

theorem le_or_lt (left : x.isNaN = false) (right : y.isNaN = false) : x ≤ y ∨ y < x := by
  rw [le_iff_place left right, lt_iff_place right left]
  exact le_or_gt _ _

/-- Between two doubles in succession there is no other. -/
theorem le_of_lt_succ (number : y.isNaN = false) (next : place z = place y + 1) (less : x < z) : x ≤ y := by
  obtain ⟨left, right⟩ := isNaN_eq_false_of_lt less
  rw [lt_iff_place left right, next] at less
  exact (le_iff_place left number).mpr (Int.lt_add_one_iff.mp less)

theorem succ_le_of_lt (number : z.isNaN = false) (next : place z = place y + 1) (less : y < x) : z ≤ x := by
  obtain ⟨left, right⟩ := isNaN_eq_false_of_lt less
  rw [lt_iff_place left right] at less
  rw [le_iff_place number right, next]
  exact less

/-- Nothing is above infinity. -/
theorem eq_positiveInfinity_of_le (le : positiveInfinity ≤ x) : x = positiveInfinity := by
  have number := (isNaN_eq_false_of_le le).2
  by_cases finite : x.isFinite = true
  · have below := (place_bounds_of_isFinite finite).2
    rw [le_iff_place positiveInfinity_spec.2.1 number, positiveInfinity_spec.1] at le
    omega
  · rcases eq_infinity_of_not_isFinite number finite with same | rfl
    · exact same
    · exact absurd le (by decide)

/-- A number that is not below zero is finite or infinity. -/
theorem isFinite_or_eq_positiveInfinity (above : 0.0 ≤ x) : x.isFinite = true ∨ x = positiveInfinity := by
  by_cases finite : x.isFinite = true
  · exact .inl finite
  · rcases eq_infinity_of_not_isFinite (isNaN_eq_false_of_le above).2 finite with same | rfl
    · exact .inr same
    · exact absurd above (by decide)

theorem toReal_nonneg_of_le (above : 0.0 ≤ x) : 0 ≤ toReal x := by
  rcases isFinite_or_eq_positiveInfinity above with finite | rfl
  · obtain ⟨zero, value⟩ := zero_spec
    rwa [le_iff_toReal_le zero finite, value] at above
  · exact (toReal_of_not_isFinite (Bool.eq_false_iff.mp positiveInfinity_spec.2.2)).ge

end Order

/-! ### Literals -/

theorem rounds_zero_literal : Rounds .double 0.0 0 := zero_spec.2 ▸ rounds_self zero_spec.1

theorem rounds_one : Rounds .double 1.0 1 := toReal_one ▸ rounds_self spans_one.finite

/-- One times a number is this number. -/
theorem one_mul_spec {a : Float} (finite : a.isFinite = true) :
    (1.0 * a).isFinite = true ∧ toReal (1.0 * a) = toReal a := by
  have rounds := rounds_mul spans_one.finite finite
  rw [toReal_one, one_mul] at rounds
  exact rounds.spec_of_rounded (rounded_toReal finite) (abs_toReal_lt finite)

/-! ### Sums -/

/-- Nothing is below negative infinity. -/
theorem isFinite_or_eq_negativeInfinity {x c : Float} (le : x ≤ c) (finite : c.isFinite = true) :
    x.isFinite = true ∨ x = negativeInfinity := by
  obtain ⟨number, _⟩ := isNaN_eq_false_of_le le
  by_cases bounded : x.isFinite = true
  · exact .inl bounded
  · rcases eq_infinity_of_not_isFinite number bounded with rfl | rfl
    · rw [eq_positiveInfinity_of_le le] at finite
      exact absurd finite (by decide)
    · exact .inr rfl

/-- A sum of which one part is negative infinity and the other is no positive infinity. -/
theorem negativeInfinity_add {x : Float} (below : x.isFinite = true ∨ x = negativeInfinity) :
    negativeInfinity + x = negativeInfinity ∧ x + negativeInfinity = negativeInfinity := by
  rcases below with finite | rfl
  · have first : (negativeInfinity + x).toModel =
        Float.Model.pack (UnpackedFloat.add .binary64 (.infinity .negative) x.toModel.unpack) := rfl
    have second : (x + negativeInfinity).toModel =
        Float.Model.pack (UnpackedFloat.add .binary64 x.toModel.unpack (.infinity .negative)) := rfl
    change x.toModel.unpack.isFinite = true at finite
    cases parts : x.toModel.unpack with
    | notANumber =>
        rw [parts] at finite
        cases finite
    | infinity sign =>
        rw [parts] at finite
        cases finite
    | zero sign =>
        rw [parts] at first second
        exact ⟨eq_of_toModel_eq first, eq_of_toModel_eq second⟩
    | finite sign m e positive =>
        rw [parts] at first second
        exact ⟨eq_of_toModel_eq first, eq_of_toModel_eq second⟩
  · decide

/-- What is added to a number and is not above zero leaves it under its bound. -/
theorem add_le_of_nonpos {a b c : Float} (finite : c.isFinite = true) (le : a ≤ c) (below : b ≤ 0.0) :
    a + b ≤ c := by
  have bottom := negativeInfinity_le (isNaN_eq_false_of_isFinite finite)
  have left := isFinite_or_eq_negativeInfinity le finite
  have right := isFinite_or_eq_negativeInfinity below zero_spec.1
  rcases left with first | rfl
  · rcases right with second | rfl
    · rw [le_iff_toReal_le first finite] at le
      rw [le_iff_toReal_le second zero_spec.1, zero_spec.2] at below
      exact (rounds_add first second).mono (rounds_self finite) (by linarith)
    · rwa [(negativeInfinity_add (.inl first)).2]
  · rwa [(negativeInfinity_add right).1]

/-! ### Differences -/

section Differences

variable {a b c : Float}

/-- The difference from a smaller number is not rounded to zero. -/
theorem difference_pos (left : a.isFinite = true) (right : b.isFinite = true) (less : a < b) :
    0.0 < b - a := by
  rw [lt_iff_toReal_lt left right] at less
  have far := least_le_sub left right less
  have rounds := rounds_sub right left
  by_cases finite : (b - a).isFinite = true
  · rw [lt_iff_toReal_lt zero_spec.1 finite, zero_spec.2]
    exact (zpow_pos two_pos _).trans_le (rounds.le_toReal finite (by decide) far)
  · rw [rounds.eq_infinity finite, if_pos (by linarith)]
    decide

theorem isFinite_sub_self (finite : a.isFinite = true) : (a - a).isFinite = true := by
  change (a - a).toModel.unpack.isFinite = true
  rw [unpack_sub_self finite]
  rfl

theorem difference_nonneg (left : a.isFinite = true) (right : b.isFinite = true) (le : a ≤ b) :
    0.0 ≤ b - a := by
  rw [le_iff_toReal_le left right] at le
  exact rounds_zero_literal.mono (rounds_sub right left) (by linarith)

/-- A larger number is farther from what lies below. -/
theorem difference_le (left : a.isFinite = true) (middle : b.isFinite = true) (right : c.isFinite = true)
    (le : b ≤ c) : b - a ≤ c - a := by
  rw [le_iff_toReal_le middle right] at le
  exact (rounds_sub middle left).mono (rounds_sub right left) (by linarith)

end Differences

/-! ### Positive factors -/

section Products

variable {a b c d : Float}

/-- The parts of a positive double have a positive sign. -/
theorem unpack_of_lt (finite : a.isFinite = true) (above : 0.0 < a) :
    ∃ m e positive, a.toModel.unpack = .finite .positive m e positive ∧ Canonical m e ∧
      toReal a = m * 2 ^ e := by
  have size := toReal_pos_of_lt finite above
  rcases zero_or_canonical finite with ⟨_, _, value⟩ | ⟨s, m, e, nonzero, parts, canonical, value⟩
  · exact absurd value size.ne'
  · cases s with
    | positive => exact ⟨m, e, nonzero, parts, canonical, by rw [value, unit, one_mul]⟩
    | negative =>
        have least := mul_zpow_nonneg m e
        rw [value, unit] at size
        linarith

/-- Infinity times a positive number. -/
theorem infinity_mul (finite : a.isFinite = true) (above : 0.0 < a) :
    positiveInfinity * a = positiveInfinity := by
  obtain ⟨m, e, nonzero, parts, _⟩ := unpack_of_lt finite above
  have product : (positiveInfinity * a).toModel =
      Float.Model.pack (UnpackedFloat.mul .binary64 (.infinity .positive) a.toModel.unpack) := rfl
  rw [parts] at product
  have endless : (positiveInfinity * a).toModel = positiveInfinity.toModel := product
  exact eq_of_toModel_eq endless

/-- A product of positive numbers is positive, or so small that it is zero. -/
theorem mul_eq_zero_or_lt (left : a.isFinite = true) (above : 0.0 < a) (right : b.isFinite = true)
    (beyond : 0.0 < b) : a * b = 0.0 ∨ 0.0 < a * b := by
  obtain ⟨m, e, nonzero, parts, canonical, _⟩ := unpack_of_lt left above
  obtain ⟨n, f, nonzeros, others, canonicals, _⟩ := unpack_of_lt right beyond
  have fine := fine_product canonical canonicals nonzero nonzeros
  obtain ⟨k, g, fitted, value, rounded⟩ := exists_fitted .positive (brackets_exact (m * n)) fine
  have product : (a * b).toModel =
      Float.Model.pack (UnpackedFloat.mul .binary64 a.toModel.unpack b.toModel.unpack) := rfl
  rw [parts, others] at product
  have product : (a * b).toModel = Float.Model.pack (finiteOrZero .positive k g) := product.trans
    (congrArg Float.Model.pack rounded)
  rcases k.eq_zero_or_pos with rfl | count
  · left
    exact eq_of_toModel_eq product
  · right
    have rounds := rounds_of_packed (mul_zpow_nonneg _ _) fitted value product
    rw [unit, one_mul] at rounds
    by_cases finite : (a * b).isFinite = true
    · obtain ⟨zero, zero_value⟩ := zero_spec
      rw [lt_iff_toReal_lt zero finite, zero_value, rounds.toReal_eq finite, ← value]
      exact mul_pos (Nat.cast_pos.mpr count) (zpow_pos two_pos _)
    · rw [rounds.eq_infinity finite, if_pos (mul_zpow_nonneg _ _)]
      decide

/-- Larger positive factors have a larger product.  One of them may be zero or infinity. -/
theorem product_le (start : 0.0 ≤ a) (le : a ≤ b) (left : c.isFinite = true) (above : 0.0 < c)
    (right : d.isFinite = true) (less : c ≤ d) : a * c ≤ b * d := by
  have size := toReal_pos_of_lt left above
  have beyond := lt_of_lt_of_le above less
  rcases isFinite_or_eq_positiveInfinity (le_of_le_of_le start le) with finite | rfl
  · have first := isFinite_of_le_of_le start le zero_spec.1 finite
    have low := toReal_nonneg_of_le start
    rw [le_iff_toReal_le first finite] at le
    rw [le_iff_toReal_le left right] at less
    exact (rounds_mul first left).mono (rounds_mul finite right)
      (mul_le_mul le less size.le (low.trans le))
  · rw [infinity_mul right beyond]
    apply le_positiveInfinity
    rcases isFinite_or_eq_positiveInfinity start with first | rfl
    · exact (rounds_mul first left).isNaN_eq_false
    · rw [infinity_mul left above]
      exact positiveInfinity_spec.2.1

end Products

/-! ### Positive divisors -/

section Quotients

variable {a b c : Float}

/-- A positive number divided by zero. -/
theorem quotient_of_zero (finite : a.isFinite = true) (above : 0.0 < a) : a / 0.0 = positiveInfinity := by
  obtain ⟨m, e, nonzero, parts, _⟩ := unpack_of_lt finite above
  have quotient : (a / 0.0).toModel =
      Float.Model.pack (UnpackedFloat.div .binary64 a.toModel.unpack (.zero .positive)) := rfl
  rw [parts] at quotient
  have endless : (a / 0.0).toModel = positiveInfinity.toModel := quotient
  exact eq_of_toModel_eq endless

/-- A finite number divided by a positive one, infinity included, which stands for zero. -/
theorem rounds_div_of_lt (finite : a.isFinite = true) (above : 0.0 < b) :
    Rounds .double (a / b) (toReal a / toReal b) := by
  rcases isFinite_or_eq_positiveInfinity (le_of_less above) with right | rfl
  · exact rounds_div finite right (toReal_pos_of_lt right above).ne'
  · have quotient : (a / positiveInfinity).toModel =
        Float.Model.pack (UnpackedFloat.div .binary64 a.toModel.unpack (.infinity .positive)) := rfl
    obtain ⟨s, vanishes⟩ := div_infinity (show a.toModel.unpack.isFinite = true from finite) .positive
    rw [vanishes] at quotient
    rw [toReal_of_not_isFinite (Bool.eq_false_iff.mp positiveInfinity_spec.2.2), div_zero]
    exact rounds_zero quotient

theorem quotient_nonneg (finite : a.isFinite = true) (start : 0 ≤ toReal a) (above : 0.0 < b) :
    0.0 ≤ a / b :=
  rounds_zero_literal.mono (rounds_div_of_lt finite above) (div_nonneg start (toReal_nonneg_of_lt above))

/-- A positive number divided by one that may be zero. -/
theorem quotient_nonneg_of_lt (finite : a.isFinite = true) (above : 0.0 < a)
    (divisor : b = 0.0 ∨ 0.0 < b) : 0.0 ≤ a / b := by
  rcases divisor with rfl | positive
  · rw [quotient_of_zero finite above]
    decide
  · exact quotient_nonneg finite (toReal_pos_of_lt finite above).le positive

/-- A number that is not below zero, divided by more, is less.  The divisors may be infinity. -/
theorem quotient_le (finite : a.isFinite = true) (start : 0 ≤ toReal a) (above : 0.0 < b) (le : b ≤ c) :
    a / c ≤ a / b := by
  have beyond := lt_of_lt_of_le above le
  apply (rounds_div_of_lt finite beyond).mono (rounds_div_of_lt finite above)
  rcases isFinite_or_eq_positiveInfinity (le_of_less beyond) with right | rfl
  · have left := isFinite_of_le_of_le (le_of_less above) le zero_spec.1 right
    rw [le_iff_toReal_le left right] at le
    exact div_le_div_of_nonneg_left start (toReal_pos_of_lt left above) le
  · rw [toReal_of_not_isFinite (Bool.eq_false_iff.mp positiveInfinity_spec.2.2), div_zero]
    exact div_nonneg start (toReal_nonneg_of_lt above)

/-- For a positive number the divisors may be zero as well. -/
theorem quotient_le_of_lt (finite : a.isFinite = true) (above : 0.0 < a) (left : b = 0.0 ∨ 0.0 < b)
    (right : c = 0.0 ∨ 0.0 < c) (le : b ≤ c) : a / c ≤ a / b := by
  rcases left with rfl | positive
  · rw [quotient_of_zero finite above]
    exact le_positiveInfinity (isNaN_eq_false_of_le (quotient_nonneg_of_lt finite above right)).2
  · exact quotient_le finite (toReal_pos_of_lt finite above).le positive le

end Quotients

/-! ### Roots and stored values -/

theorem root_infinity : positiveInfinity.sqrt = positiveInfinity := by decide

theorem root_nonneg {a : Float} (start : 0.0 ≤ a) : 0.0 ≤ a.sqrt := by
  rcases isFinite_or_eq_positiveInfinity start with finite | rfl
  · exact rounds_zero_literal.mono (rounds_sqrt finite (toReal_nonneg_of_le start)) (Real.sqrt_nonneg _)
  · rw [root_infinity]
    decide

/-- Larger numbers have larger roots. -/
theorem root_le {a b : Float} (start : 0.0 ≤ a) (le : a ≤ b) : a.sqrt ≤ b.sqrt := by
  have low := toReal_nonneg_of_le start
  rcases isFinite_or_eq_positiveInfinity (le_of_le_of_le start le) with finite | rfl
  · have first := isFinite_of_le_of_le start le zero_spec.1 finite
    rw [le_iff_toReal_le first finite] at le
    exact (rounds_sqrt first low).mono (rounds_sqrt finite (low.trans le)) (Real.sqrt_le_sqrt le)
  · rw [root_infinity]
    exact le_positiveInfinity (isNaN_eq_false_of_le (root_nonneg start)).2

/-- A positive number is at least the least positive double. -/
theorem least_le_toReal {a : Float} (finite : a.isFinite = true) (above : 0.0 < a) :
    (2 : ℝ) ^ (-1074 : ℤ) ≤ toReal a := by
  obtain ⟨m, e, nonzero, _, canonical, value⟩ := unpack_of_lt finite above
  have one : (1 : ℝ) ≤ m := Nat.one_le_cast.mpr nonzero
  rw [value]
  exact (two_zpow_le canonical.least).trans (le_mul_of_one_le_left (zpow_pos two_pos _).le one)

/-- The root of a positive number is positive. -/
theorem root_pos {a : Float} (above : 0.0 < a) : 0.0 < a.sqrt := by
  rcases isFinite_or_eq_positiveInfinity (le_of_less above) with finite | rfl
  · have size := least_le_toReal finite above
    have start := (zpow_pos two_pos _).le.trans size
    have rounds := rounds_sqrt finite start
    have root : (2 : ℝ) ^ (-537 : ℤ) ≤ √(toReal a) := by
      apply Real.le_sqrt_of_sq_le
      refine le_trans (le_of_eq ?_) size
      rw [← zpow_natCast, ← zpow_mul]
      norm_num
    by_cases bounded : a.sqrt.isFinite = true
    · obtain ⟨zero, zero_value⟩ := zero_spec
      rw [lt_iff_toReal_lt zero bounded, zero_value]
      exact (zpow_pos two_pos _).trans_le (rounds.le_toReal bounded (by decide) root)
    · rw [rounds.eq_infinity bounded, if_pos (Real.sqrt_nonneg _)]
      decide
  · rw [root_infinity]
    decide

theorem rounds_root_one : Rounds .double (Float.sqrt 1.0) 1 := by
  have rounds := rounds_sqrt spans_one.finite (toReal_one.symm ▸ zero_le_one)
  rwa [toReal_one, Real.sqrt_one] at rounds

/-- Larger values are stored as larger numbers. -/
theorem cast_mono (precision : Precision) {x y : Float} (le : x ≤ y) : precision.cast x ≤ precision.cast y := by
  obtain ⟨left, right⟩ := isNaN_eq_false_of_le le
  have endless := cast_infinity precision
  by_cases finite : x.isFinite = true
  · by_cases other : y.isFinite = true
    · rw [le_iff_toReal_le finite other] at le
      exact (rounds_cast precision finite).mono (rounds_cast precision other) le
    · rcases eq_infinity_of_not_isFinite right other with rfl | rfl
      · rw [endless.1]
        exact le_positiveInfinity ((isNaN_cast precision x).trans left)
      · rw [le_iff_place left right, negativeInfinity_spec.1] at le
        exact absurd (place_bounds_of_isFinite finite).1 le.not_gt
  · rcases eq_infinity_of_not_isFinite left finite with rfl | rfl
    · rw [eq_positiveInfinity_of_le le]
      exact le_self ((isNaN_cast precision _).trans positiveInfinity_spec.2.1)
    · rw [endless.2]
      exact negativeInfinity_le ((isNaN_cast precision y).trans right)

end WaveMedium.Number
