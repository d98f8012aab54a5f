/-
Module: WaveMedium.Proofs.Number.Tolerance
Purpose: Which doubles agree with themselves up to the tolerance for lengths.
Main exports:
  Unsigned, Unsigned.unpack_pack, close_self
-/
import Mathlib
import WaveMedium.Proofs.Number.Order

namespace WaveMedium.Number

open Float.Model (UnpackedFloat Format)
open Float.Model.UnpackedFloat (Sign)

/-! ### Numbers that are not below zero -/

/-- A number that is not below zero, infinity included. -/
def Unsigned : UnpackedFloat → Prop
  | .notANumber => False
  | .infinity sign => sign = .positive
  | .zero _ => True
  | .finite sign _ _ _ => sign = .positive

/-- Bits with a positive sign whose exponent has a zero digit are those of a number. -/
theorem unsigned_unpack_packComponents {exponent : BitVec Format.binary64.exponentBits}
    {mantissa : BitVec Format.binary64.mantissaBitsWithoutImplicit} (apart : exponent ≠ -1#_) :
    Unsigned (UnpackedFloat.unpack .binary64
      (UnpackedFloat.packComponents .binary64 .positive exponent mantissa)) := by
  simp only [UnpackedFloat.unpack, UnpackedFloat.unpackExponent_packComponents,
    UnpackedFloat.unpackMantissa_packComponents, UnpackedFloat.unpackSign_packComponents,
    Sign.ofBitVec_toBitVec, if_neg apart]
  split
  · split
    · trivial
    · rfl
  · rfl

/-- Rounding to the bits of a double does not make a number negative. -/
theorem Unsigned.unpack_pack {u : UnpackedFloat} (above : Unsigned u) :
    Unsigned (Float.Model.pack u).unpack := by
  change Unsigned (UnpackedFloat.unpack .binary64 (UnpackedFloat.pack .binary64 u))
  cases u with
  | notANumber => exact absurd above id
  | infinity sign =>
      cases above
      rfl
  | zero sign =>
      rw [UnpackedFloat.pack, UnpackedFloat.unpack_packedZero]
      trivial
  | finite sign mantissa exponent positive =>
      cases above
      unfold UnpackedFloat.pack
      dsimp only
      split
      · rfl
      · rename_i small
        split
        · apply unsigned_unpack_packComponents
          intro top
          have digits := congrArg BitVec.toNat top
          simp [Format.binary64] at digits small
          omega
        · exact unsigned_unpack_packComponents (by decide)

theorem Unsigned.zero_le {u : UnpackedFloat} {sign : Sign} (above : Unsigned u) :
    (UnpackedFloat.zero sign).le u = true := by
  cases u with
  | notANumber => exact absurd above id
  | infinity _ =>
      cases above
      rfl
  | zero _ => rfl
  | finite _ _ _ _ =>
      cases above
      rfl

theorem unsigned_roundWithAccuracy (format : Float.Model.Format) (mantissa : Nat) (exponent : Int)
    (accuracy : UnpackedFloat.Accuracy) :
    Unsigned (UnpackedFloat.roundWithAccuracy format .positive mantissa exponent accuracy) := by
  unfold UnpackedFloat.roundWithAccuracy
  dsimp only
  split
  · trivial
  · rfl

/-- A multiple of a number above zero by a positive factor is above zero. -/
theorem Unsigned.mul {u : UnpackedFloat} {format : Float.Model.Format} {mantissa : Nat} {exponent : Int}
    {positive : 0 < mantissa} (above : Unsigned u) :
    Unsigned (UnpackedFloat.mul format (.finite .positive mantissa exponent positive) u) := by
  cases u with
  | notANumber => exact absurd above id
  | infinity sign =>
      cases above
      rfl
  | zero sign => trivial
  | finite sign _ _ _ =>
      cases above
      exact unsigned_roundWithAccuracy _ _ _ _

theorem unsigned_abs {u : UnpackedFloat} (number : u.isNaN = false) : Unsigned u.abs := by
  cases u with
  | notANumber => cases number
  | infinity sign => rfl
  | zero sign => trivial
  | finite sign mantissa exponent positive => rfl

/-! ### The distance of a number from itself -/

theorem unpack_sub_self {x : Float} (finite : x.isFinite = true) :
    (x - x).toModel.unpack = .zero .positive := by
  change (Float.Model.pack (UnpackedFloat.sub .binary64 x.toModel.unpack x.toModel.unpack)).unpack = _
  change x.toModel.unpack.isFinite = true at finite
  cases decoded : x.toModel.unpack with
  | notANumber =>
      rw [decoded] at finite
      cases finite
  | infinity sign =>
      rw [decoded] at finite
      cases finite
  | zero sign => cases sign <;> rfl
  | finite sign mantissa exponent positive =>
      simp only [UnpackedFloat.sub, Int.sub_self, UnpackedFloat.normalize, Std.ReflCmp.compare_self]
      rfl

theorem unpack_sub_self_of_not_finite {x : Float} (beyond : x.isFinite = false) :
    (x - x).toModel.unpack = .notANumber := by
  change (Float.Model.pack (UnpackedFloat.sub .binary64 x.toModel.unpack x.toModel.unpack)).unpack = _
  change x.toModel.unpack.isFinite = false at beyond
  cases decoded : x.toModel.unpack with
  | notANumber => rfl
  | infinity sign => cases sign <;> rfl
  | zero sign =>
      rw [decoded] at beyond
      cases beyond
  | finite sign mantissa exponent positive =>
      rw [decoded] at beyond
      cases beyond

/-! ### Agreement of a number with itself -/

theorem unpack_one : ∃ mantissa exponent positive,
    (Float.ofNat 1).toModel.unpack = .finite .positive mantissa exponent positive := ⟨_, _, _, rfl⟩

/-- One part in a thousand million is a positive number. -/
theorem unpack_tolerance : ∃ mantissa exponent positive,
    (Float.ofScientific 1 true 9).toModel.unpack = .finite .positive mantissa exponent positive :=
  ⟨_, _, _, rfl⟩

theorem unsigned_larger_abs_one {x : Float} (number : x.isNaN = false) :
    Unsigned (larger x.abs (Float.ofNat 1)).toModel.unpack := by
  unfold larger
  split
  · obtain ⟨mantissa, exponent, positive, one⟩ := unpack_one
    rw [one]
    rfl
  · exact (unsigned_abs number).unpack_pack

/-- A number may differ from itself by something that is not below zero. -/
theorem unsigned_tolerance {x : Float} (number : x.isNaN = false) :
    Unsigned (Float.ofScientific 1 true 9 * larger x.abs (Float.ofNat 1)).toModel.unpack := by
  obtain ⟨mantissa, exponent, positive, factor⟩ := unpack_tolerance
  change Unsigned (Float.Model.pack (UnpackedFloat.mul .binary64
    (Float.ofScientific 1 true 9).toModel.unpack
      (larger x.abs (Float.ofNat 1)).toModel.unpack)).unpack
  rw [factor]
  exact (unsigned_larger_abs_one number).mul.unpack_pack

theorem isNaN_eq_false_of_isFinite {x : Float} (finite : x.isFinite = true) : x.isNaN = false := by
  change x.toModel.unpack.isFinite = true at finite
  change x.toModel.unpack.isNaN = false
  cases decoded : x.toModel.unpack with
  | notANumber =>
      rw [decoded] at finite
      cases finite
  | infinity sign => rfl
  | zero sign => rfl
  | finite sign mantissa exponent positive => rfl

theorem decide_le_eq (a b : Float) : decide (a ≤ b) = a.toModel.unpack.le b.toModel.unpack := by
  rw [Bool.eq_iff_iff, decide_eq_true_iff]
  change decide (a.toModel.unpack.le b.toModel.unpack = true) = true ↔ _
  rw [decide_eq_true_iff]

/-- A double agrees with itself exactly if it is finite: the difference of an infinity from itself is not
a number, and nothing bounds what is not a number. -/
theorem close_self (x : Float) : Scalar.close x x = x.isFinite := by
  have size : (x - x).abs.toModel.unpack = (Float.Model.pack (x - x).toModel.unpack.abs).unpack := rfl
  change decide ((x - x).abs ≤ Float.ofScientific 1 true 9 * larger x.abs (Float.ofNat 1)) = _
  rw [decide_le_eq, size]
  cases finite : x.isFinite with
  | true =>
      rw [unpack_sub_self finite]
      exact (unsigned_tolerance (isNaN_eq_false_of_isFinite finite)).zero_le
  | false =>
      rw [unpack_sub_self_of_not_finite finite]
      rfl

end WaveMedium.Number
