/-
Module: WaveMedium.Proofs.Number.Sign
Purpose: Products, quotients and roots, whether finite or not: which are not below zero, and which are finite
  only if their operands are.
Main exports:
  isFinite_of_mul, eq_infinity_of_not_isFinite, toReal_mul_nonneg, toReal_div_nonneg, toReal_sqrt_nonneg
-/
import Mathlib
import WaveMedium.Proofs.Number.Arithmetic

namespace WaveMedium.Number

open Float.Model (UnpackedFloat)
open Float.Model.UnpackedFloat (Sign)

/-! ### Results that are not finite -/

/-- An infinity, or no number. -/
def Boundless (u : UnpackedFloat) : Prop := u = .notANumber ∨ ∃ s, u = .infinity s

theorem boundless_of_not_isFinite {u : UnpackedFloat} (endless : ¬ u.isFinite = true) : Boundless u := by
  cases u with
  | notANumber => exact .inl rfl
  | infinity s => exact .inr ⟨s, rfl⟩
  | zero s => exact absurd rfl endless
  | finite s m e _ => exact absurd rfl endless

theorem not_isFinite_of_packed {x : Float} {u : UnpackedFloat} (packed : x.toModel = Float.Model.pack u)
    (boundless : Boundless u) : ¬ x.isFinite = true := by
  change ¬ x.toModel.unpack.isFinite = true
  rw [packed]
  rcases boundless with rfl | ⟨s, rfl⟩
  · decide
  · cases s <;> decide

theorem Boundless.mul_left {u : UnpackedFloat} (boundless : Boundless u) (v : UnpackedFloat) :
    Boundless (UnpackedFloat.mul .binary64 u v) := by
  rcases boundless with rfl | ⟨s, rfl⟩
  · exact .inl rfl
  · cases v <;> first | exact .inl rfl | exact .inr ⟨_, rfl⟩

theorem Boundless.mul_right {v : UnpackedFloat} (boundless : Boundless v) (u : UnpackedFloat) :
    Boundless (UnpackedFloat.mul .binary64 u v) := by
  rcases boundless with rfl | ⟨s, rfl⟩
  · cases u <;> exact .inl rfl
  · cases u <;> first | exact .inl rfl | exact .inr ⟨_, rfl⟩

theorem Boundless.div_left {u : UnpackedFloat} (boundless : Boundless u) (v : UnpackedFloat) :
    Boundless (UnpackedFloat.div .binary64 u v) := by
  rcases boundless with rfl | ⟨s, rfl⟩
  · exact .inl rfl
  · cases v <;> first | exact .inl rfl | exact .inr ⟨_, rfl⟩

theorem Boundless.sub_left {u : UnpackedFloat} (boundless : Boundless u) (v : UnpackedFloat) :
    Boundless (UnpackedFloat.sub .binary64 u v) := by
  rcases boundless with rfl | ⟨s, rfl⟩
  · exact .inl rfl
  · cases v with
    | infinity t => cases s <;> cases t <;> first | exact .inl rfl | exact .inr ⟨_, rfl⟩
    | _ => first | exact .inl rfl | exact .inr ⟨_, rfl⟩

theorem boundless_div_zero (u : UnpackedFloat) (s : Sign) :
    Boundless (UnpackedFloat.div .binary64 u (.zero s)) := by
  cases u <;> first | exact .inl rfl | exact .inr ⟨_, rfl⟩

theorem div_infinity {u : UnpackedFloat} (finite : u.isFinite = true) (s : Sign) :
    ∃ t, UnpackedFloat.div .binary64 u (.infinity s) = .zero t := by
  cases u with
  | notANumber => cases finite
  | infinity _ => cases finite
  | zero _ => exact ⟨_, rfl⟩
  | finite _ _ _ _ => exact ⟨_, rfl⟩

theorem Boundless.sqrt {u : UnpackedFloat} (boundless : Boundless u) :
    Boundless (UnpackedFloat.sqrt .binary64 u) := by
  rcases boundless with rfl | ⟨s, rfl⟩
  · exact .inl rfl
  · cases s with
    | positive => exact .inr ⟨_, rfl⟩
    | negative => exact .inl rfl

section Operands

variable {a b : Float}

theorem boundless_unpack (endless : ¬ a.isFinite = true) : Boundless a.toModel.unpack :=
  boundless_of_not_isFinite endless

/-- A product is finite only if both factors are. -/
theorem isFinite_of_mul (product : (a * b).isFinite = true) : a.isFinite = true ∧ b.isFinite = true := by
  have packed : (a * b).toModel =
      Float.Model.pack (UnpackedFloat.mul .binary64 a.toModel.unpack b.toModel.unpack) := rfl
  constructor
  · by_contra endless
    exact not_isFinite_of_packed packed ((boundless_unpack endless).mul_left _) product
  · by_contra endless
    exact not_isFinite_of_packed packed ((boundless_unpack endless).mul_right _) product

/-- A difference is finite only if the number is from which the other is taken. -/
theorem isFinite_of_sub (difference : (a - b).isFinite = true) : a.isFinite = true := by
  have packed : (a - b).toModel =
      Float.Model.pack (UnpackedFloat.sub .binary64 a.toModel.unpack b.toModel.unpack) := rfl
  by_contra endless
  exact not_isFinite_of_packed packed ((boundless_unpack endless).sub_left _) difference

/-- A quotient is finite only if its numerator is. -/
theorem isFinite_of_div (quotient : (a / b).isFinite = true) : a.isFinite = true := by
  have packed : (a / b).toModel =
      Float.Model.pack (UnpackedFloat.div .binary64 a.toModel.unpack b.toModel.unpack) := rfl
  by_contra endless
  exact not_isFinite_of_packed packed ((boundless_unpack endless).div_left _) quotient

theorem isFinite_of_sqrt (root : a.sqrt.isFinite = true) : a.isFinite = true := by
  have packed : a.sqrt.toModel = Float.Model.pack (UnpackedFloat.sqrt .binary64 a.toModel.unpack) := rfl
  by_contra endless
  exact not_isFinite_of_packed packed (boundless_unpack endless).sqrt root

/-- A quotient by zero is not finite. -/
theorem toReal_ne_zero_of_div (quotient : (a / b).isFinite = true) (right : b.isFinite = true) :
    toReal b ≠ 0 := by
  have packed : (a / b).toModel =
      Float.Model.pack (UnpackedFloat.div .binary64 a.toModel.unpack b.toModel.unpack) := rfl
  rcases zero_or_canonical right with ⟨s, parts, _⟩ | ⟨s, m, e, nonzero, _, _, value⟩
  · rw [parts] at packed
    exact absurd quotient (not_isFinite_of_packed packed (boundless_div_zero _ s))
  · have size : (0 : ℝ) < m * 2 ^ e := mul_pos (Nat.cast_pos.mpr nonzero) (zpow_pos two_pos _)
    rw [value]
    cases s with
    | positive => simpa [unit] using size.ne'
    | negative => simpa [unit] using size.ne'

/-- A finite quotient whose denominator is not finite is zero. -/
theorem toReal_div_of_endless (quotient : (a / b).isFinite = true) (endless : ¬ b.isFinite = true) :
    toReal (a / b) = 0 := by
  have packed : (a / b).toModel =
      Float.Model.pack (UnpackedFloat.div .binary64 a.toModel.unpack b.toModel.unpack) := rfl
  rcases boundless_unpack endless with parts | ⟨s, parts⟩
  · have undefined : Boundless (UnpackedFloat.div .binary64 a.toModel.unpack .notANumber) := by
      cases a.toModel.unpack <;> exact .inl rfl
    rw [parts] at packed
    exact absurd quotient (not_isFinite_of_packed packed undefined)
  · obtain ⟨t, vanishes⟩ := div_infinity (isFinite_of_div quotient) s
    rw [parts, vanishes] at packed
    rw [(rounds_zero packed).toReal_eq quotient, Format.rounded_zero]

end Operands

/-- What is not finite stands for zero. -/
theorem toReal_of_not_isFinite {x : Float} (endless : ¬ x.isFinite = true) : toReal x = 0 := by
  unfold toReal
  cases parts : Binary.ofFloat x with
  | notANumber => rfl
  | infinite negative => rfl
  | finite negative m e => exact absurd (isFinite_iff.mpr ⟨_, _, _, parts⟩) endless

theorem eq_infinity_of_not_isFinite {x : Float} (number : x.isNaN = false) (endless : ¬ x.isFinite = true) :
    x = positiveInfinity ∨ x = negativeInfinity := by
  change x.toModel.unpack.isNaN = false at number
  change ¬ x.toModel.unpack.isFinite = true at endless
  have parts := ofFloat_eq_ofUnpacked x
  cases unpacked : x.toModel.unpack with
  | notANumber =>
      rw [unpacked] at number
      cases number
  | infinity s =>
      rw [unpacked] at parts
      cases s with
      | positive => exact .inl (ofFloat_injective (parts.trans (ofFloat_infinity false).symm))
      | negative => exact .inr (ofFloat_injective (parts.trans (ofFloat_infinity true).symm))
  | zero s =>
      rw [unpacked] at endless
      exact absurd rfl endless
  | finite s m e _ =>
      rw [unpacked] at endless
      exact absurd rfl endless

/-! ### Results that are not below zero -/

theorem zero_spec : (0.0 : Float).isFinite = true ∧ toReal 0.0 = 0 := by
  have parts : Binary.ofFloat 0.0 = .finite false 0 (-1074) := by decide
  simpa using spec_of_parts parts

section Sign

variable {a b : Float}

theorem toReal_pos_of_lt (finite : a.isFinite = true) (above : 0.0 < a) : 0 < toReal a := by
  obtain ⟨zero, value⟩ := zero_spec
  rwa [lt_iff_toReal_lt zero finite, value] at above

theorem toReal_nonneg_of_lt (above : 0.0 < a) : 0 ≤ toReal a := by
  by_cases finite : a.isFinite = true
  · exact (toReal_pos_of_lt finite above).le
  · rw [toReal_of_not_isFinite finite]

theorem toReal_mul_nonneg (left : 0 ≤ toReal a) (right : 0 ≤ toReal b) : 0 ≤ toReal (a * b) := by
  by_cases finite : (a * b).isFinite = true
  · obtain ⟨one, two⟩ := isFinite_of_mul finite
    rw [(rounds_mul one two).toReal_eq finite]
    exact Format.rounded_nonneg _ (mul_nonneg left right)
  · rw [toReal_of_not_isFinite finite]

theorem toReal_div_nonneg (left : 0 ≤ toReal a) (right : 0 ≤ toReal b) : 0 ≤ toReal (a / b) := by
  by_cases finite : (a / b).isFinite = true
  · have one := isFinite_of_div finite
    by_cases two : b.isFinite = true
    · rw [(rounds_div one two (toReal_ne_zero_of_div finite two)).toReal_eq finite]
      exact Format.rounded_nonneg _ (div_nonneg left right)
    · rw [toReal_div_of_endless finite two]
  · rw [toReal_of_not_isFinite finite]

/-- Numbers below zero have no root. -/
theorem isNaN_sqrt (finite : a.isFinite = true) (below : toReal a < 0) : a.sqrt.isNaN = true := by
  have root : a.sqrt.toModel = Float.Model.pack (UnpackedFloat.sqrt .binary64 a.toModel.unpack) := rfl
  rcases zero_or_canonical finite with ⟨s, _, value⟩ | ⟨s, m, e, nonzero, parts, _, value⟩
  · exact absurd value below.ne
  · have negative : s = .negative := by
      cases s with
      | negative => rfl
      | positive =>
          rw [value, unit, one_mul] at below
          exact absurd (mul_zpow_nonneg m e) below.not_ge
    cases negative
    rw [parts] at root
    have undefined : a.sqrt.toModel = Float.Model.pack .notANumber := root
    change a.sqrt.toModel.unpack.isNaN = true
    rw [undefined]
    rfl

theorem toReal_sqrt_nonneg (above : 0 ≤ toReal a) : 0 ≤ toReal a.sqrt := by
  by_cases finite : a.sqrt.isFinite = true
  · rw [(rounds_sqrt (isFinite_of_sqrt finite) above).toReal_eq finite]
    exact Format.rounded_nonneg _ (Real.sqrt_nonneg _)
  · rw [toReal_of_not_isFinite finite]

end Sign

/-! ### Numbers between finite numbers -/

theorem isNaN_eq_false_of_le {a b : Float} (le : a ≤ b) : a.isNaN = false ∧ b.isNaN = false := by
  change decide (a.toModel.unpack.le b.toModel.unpack = true) = true at le
  rw [decide_eq_true_iff, UnpackedFloat.le] at le
  constructor
  · rw [Bool.eq_false_iff]
    intro undefined
    rw [unpack_eq_notANumber undefined, compare_notANumber_left] at le
    cases le
  · rw [Bool.eq_false_iff]
    intro undefined
    rw [unpack_eq_notANumber undefined, compare_notANumber_right] at le
    cases le

theorem le_of_less {a b : Float} (less : a < b) : a ≤ b := by
  obtain ⟨left, right⟩ := isNaN_eq_false_of_lt less
  rw [lt_iff_place left right] at less
  rw [le_iff_not_lt left right, lt_iff_place right left]
  omega

/-- What lies between finite numbers is finite. -/
theorem isFinite_of_le_of_le {lo x hi : Float} (lower : lo ≤ x) (upper : x ≤ hi) (left : lo.isFinite = true)
    (right : hi.isFinite = true) : x.isFinite = true := by
  have number := (isNaN_eq_false_of_le lower).2
  by_contra endless
  rcases eq_infinity_of_not_isFinite number endless with rfl | rfl
  · have top := positiveInfinity_spec.1
    rw [le_iff_not_lt number (isNaN_eq_false_of_isFinite right),
      lt_iff_place (isNaN_eq_false_of_isFinite right) number, top] at upper
    exact upper (place_bounds_of_isFinite right).2
  · have bottom := negativeInfinity_spec.1
    rw [le_iff_not_lt (isNaN_eq_false_of_isFinite left) number,
      lt_iff_place number (isNaN_eq_false_of_isFinite left), bottom] at lower
    exact lower (place_bounds_of_isFinite left).1

end WaveMedium.Number
