/-
Module: WaveMedium.Proofs.Number.Order
Purpose: Doubles are ordered as their bits are, read as a sign and a natural number.
Main exports:
  place, Normalized, Decodes, Decodes.lt_iff, lt_iff_place, IsZero, SameNumber
-/
import Mathlib
import WaveMedium.Number.Scalar

namespace WaveMedium.Number

open Float.Model (UnpackedFloat Format)
open Float.Model.UnpackedFloat (Sign)

/-! ### The place of a double -/

/-- A natural number with a sign. -/
def signed : Sign → Nat → Int
  | .positive, n => n
  | .negative, n => -n

/-- The place of a double on the line of all doubles, counted from zero in both directions. -/
def place (x : Float) : Int :=
  let bits := x.toBits.toNat
  if bits < Nat.pow 2 63 then bits else -(bits - Nat.pow 2 63 : Nat)

/-- The bits, but for the sign, of a number with a mantissa and an exponent. -/
def magnitude (mantissa : Nat) (exponent : Int) : Nat :=
  (exponent + 1074).toNat * Nat.pow 2 52 + mantissa

/-- Mantissa and exponent of a double: the mantissa has all its digits unless the exponent is the least. -/
structure Normalized (mantissa : Nat) (exponent : Int) : Prop where
  positive : 0 < mantissa
  small : mantissa < Nat.pow 2 53
  least : -1074 ≤ exponent
  most : exponent ≤ 971
  normal : Nat.pow 2 52 ≤ mantissa ∨ exponent = -1074

/-- How the decoded bits of a number and its place belong together. -/
def Decodes : UnpackedFloat → Int → Prop
  | .notANumber, _ => False
  | .infinity sign, place => place = signed sign infinityBits
  | .zero _, place => place = 0
  | .finite sign mantissa exponent _, place =>
      Normalized mantissa exponent ∧ place = signed sign (magnitude mantissa exponent)

/-! ### Bits and places -/

theorem toNat_unpackSign (b : BitVec Format.binary64.numBits) :
    (UnpackedFloat.unpackSign b).toNat = b.toNat / Nat.pow 2 63 := by
  have bound : b.toNat < 2 ^ 64 := b.isLt
  simp [UnpackedFloat.unpackSign_def, Nat.shiftRight_eq_div_pow]
  omega

theorem toNat_unpackExponent (b : BitVec Format.binary64.numBits) :
    (UnpackedFloat.unpackExponent b).toNat = b.toNat / Nat.pow 2 52 % Nat.pow 2 11 := by
  simp [UnpackedFloat.unpackExponent_def, Nat.shiftRight_eq_div_pow]

theorem toNat_unpackMantissa (b : BitVec Format.binary64.numBits) :
    (UnpackedFloat.unpackMantissa b).toNat = b.toNat % Nat.pow 2 52 := by
  simp [UnpackedFloat.unpackMantissa_def]

theorem toNat_one_append (v : BitVec 52) : (1#1 ++ v).toNat = Nat.pow 2 52 + v.toNat := by
  rw [BitVec.toNat_append, ← Nat.shiftLeft_add_eq_or_of_lt v.isLt]
  rfl

/-- The place of a double, from the three parts of its bits. -/
theorem place_mk (b : BitVec Format.binary64.numBits) (valid : Format.binary64.Valid b) :
    place ⟨⟨⟨b⟩, valid⟩⟩ =
      signed (Sign.ofBitVec (UnpackedFloat.unpackSign b))
        ((UnpackedFloat.unpackExponent b).toNat * Nat.pow 2 52 +
          (UnpackedFloat.unpackMantissa b).toNat) := by
  have bound : b.toNat < 2 ^ 64 := b.isLt
  have sign := toNat_unpackSign b
  rw [toNat_unpackExponent, toNat_unpackMantissa]
  change (if b.toNat < Nat.pow 2 63 then (b.toNat : Int)
    else -((b.toNat - Nat.pow 2 63 : Nat) : Int)) = _
  simp only [Nat.pow_eq] at sign ⊢
  simp only [Sign.ofBitVec, ← BitVec.toNat_inj, sign, BitVec.toNat_ofNat]
  split
  · rw [if_pos (by omega), signed]
    omega
  · rw [if_neg (by omega), signed]
    omega

/-- The parts of the bits of a finite number other than zero. -/
theorem decodes_finite {sign : Sign} {mantissa : Nat} {exponent : Int} {field fraction : Nat}
    (positive : 0 < mantissa) (fractionSmall : fraction < Nat.pow 2 52) (fieldSmall : field < 2047)
    (parts : field = 0 ∧ mantissa = fraction ∧ exponent = -1074 ∨
      0 < field ∧ mantissa = Nat.pow 2 52 + fraction ∧ exponent = field - 1075) :
    Decodes (.finite sign mantissa exponent positive)
      (signed sign (field * Nat.pow 2 52 + fraction)) := by
  simp only [Nat.pow_eq] at fractionSmall parts
  have together : field * Nat.pow 2 52 + fraction = magnitude mantissa exponent := by
    simp only [magnitude, Nat.pow_eq]
    omega
  have small : mantissa < 2 ^ 53 := by omega
  have normal : 2 ^ 52 ≤ mantissa ∨ exponent = -1074 := by omega
  rw [together]
  exact ⟨⟨positive, small, by omega, by omega, normal⟩, rfl⟩

/-- Bits that are no mark for an undefined value stand where the decoded value says. -/
theorem decodes_unpack_bits (b : BitVec Format.binary64.numBits)
    (number : (UnpackedFloat.unpack .binary64 b).isNaN = false) :
    Decodes (UnpackedFloat.unpack .binary64 b)
      (signed (Sign.ofBitVec (UnpackedFloat.unpackSign b))
        ((UnpackedFloat.unpackExponent b).toNat * Nat.pow 2 52 +
          (UnpackedFloat.unpackMantissa b).toNat)) := by
  have bias : ((Format.binary64.exponentBias : Nat) : Int) = 1023 := rfl
  have fieldSmall : (UnpackedFloat.unpackExponent b).toNat < 2048 := BitVec.isLt _
  have fractionSmall : (UnpackedFloat.unpackMantissa b).toNat < Nat.pow 2 52 := BitVec.isLt _
  unfold UnpackedFloat.unpack at number ⊢
  dsimp only at number ⊢
  split
  · rename_i allOnes
    split
    · rename_i noFraction
      rw [allOnes, noFraction]
      rfl
    · rename_i fraction
      rw [if_pos allOnes, if_neg fraction] at number
      cases number
  · rename_i notAllOnes
    have notTop : (UnpackedFloat.unpackExponent b).toNat ≠ 2047 :=
      fun same => notAllOnes (BitVec.eq_of_toNat_eq same)
    split
    · rename_i subnormal
      split
      · rename_i noFraction
        rw [subnormal, noFraction]
        cases Sign.ofBitVec (UnpackedFloat.unpackSign b)
        · simp [Decodes, signed]
        · simp [Decodes, signed]
      · refine decodes_finite _ fractionSmall (by omega) (.inl ⟨?_, rfl, ?_⟩)
        · rw [subnormal]
          rfl
        · rw [subnormal, bias]
          rfl
    · rename_i normal
      have notZero : (UnpackedFloat.unpackExponent b).toNat ≠ 0 :=
        fun same => normal (BitVec.eq_of_toNat_eq same)
      refine decodes_finite _ fractionSmall (by omega) (.inr ⟨?_, toNat_one_append _, ?_⟩)
      · omega
      · rw [bias]
        omega

/-- A double that is a number stands where its decoded value says. -/
theorem decodes_unpack {x : Float} (number : x.isNaN = false) :
    Decodes x.toModel.unpack (place x) := by
  rcases x with ⟨⟨⟨b⟩, valid⟩⟩
  rw [place_mk]
  exact decodes_unpack_bits b number

/-! ### The order of numbers -/

theorem Normalized.magnitude_bounds {m : Nat} {e : Int} (normalized : Normalized m e) :
    0 < magnitude m e ∧ magnitude m e < infinityBits := by
  rcases normalized with ⟨positive, small, least, most, normal⟩
  simp only [magnitude, infinityBits, Nat.pow_eq] at *
  omega

/-- The larger exponent decides, and the mantissa where exponents are equal. -/
theorem Normalized.magnitude_lt_iff {m n : Nat} {e f : Int} (left : Normalized m e)
    (right : Normalized n f) : magnitude m e < magnitude n f ↔ e < f ∨ e = f ∧ m < n := by
  rcases left with ⟨_, small, least, _, normal⟩
  rcases right with ⟨_, smaller, lower, _, place⟩
  simp only [magnitude, Nat.pow_eq] at *
  omega

theorem then_compare_eq_lt {a b : Int} {m n : Nat} :
    (compare a b).then (compare m n) = .lt ↔ a < b ∨ a = b ∧ m < n := by
  simp [Ordering.then_eq_lt, Nat.compare_eq_lt, Int.compare_eq_lt]

theorem then_compare_eq_gt {a b : Int} {m n : Nat} :
    (compare a b).then (compare m n) = .gt ↔ b < a ∨ a = b ∧ n < m := by
  simp [Ordering.then_eq_gt, Nat.compare_eq_gt, Int.compare_eq_gt]

/-- Decoded numbers are compared as their places are. -/
theorem Decodes.lt_iff {u v : UnpackedFloat} {p q : Int} (left : Decodes u p)
    (right : Decodes v q) : u.lt v = true ↔ p < q := by
  have top : 0 < infinityBits := by decide
  unfold UnpackedFloat.lt
  rw [beq_iff_eq]
  -- The signs decide between numbers of different kinds, since finite places lie between those of zero
  -- and of infinity.  Only two finite numbers of one sign are compared by their parts.
  cases u with
  | notANumber => exact absurd left id
  | infinity s =>
      cases v with
      | notANumber => exact absurd right id
      | infinity t =>
          rw [left, right]
          cases s <;> cases t <;> decide
      | zero t =>
          rw [left, right]
          cases s <;> cases t <;> decide
      | finite t n f _ =>
          rcases right with ⟨normalized, rfl⟩
          have bounds := normalized.magnitude_bounds
          rw [left]
          cases s <;> cases t <;> simp [UnpackedFloat.compare, signed] <;> omega
  | zero s =>
      cases v with
      | notANumber => exact absurd right id
      | infinity t =>
          rw [left, right]
          cases s <;> cases t <;> decide
      | zero t =>
          rw [left, right]
          cases s <;> cases t <;> decide
      | finite t n f _ =>
          rcases right with ⟨normalized, rfl⟩
          have bounds := normalized.magnitude_bounds
          rw [left]
          cases s <;> cases t <;> simp [UnpackedFloat.compare, signed] <;> omega
  | finite s m e _ =>
      rcases left with ⟨normalized, rfl⟩
      have bounds := normalized.magnitude_bounds
      cases v with
      | notANumber => exact absurd right id
      | infinity t =>
          rw [right]
          cases s <;> cases t <;> simp [UnpackedFloat.compare, signed] <;> omega
      | zero t =>
          rw [right]
          cases s <;> cases t <;> simp [UnpackedFloat.compare, signed] <;> omega
      | finite t n f _ =>
          rcases right with ⟨other, rfl⟩
          have others := other.magnitude_bounds
          have up := normalized.magnitude_lt_iff other
          have down := other.magnitude_lt_iff normalized
          cases s <;> cases t <;>
            simp [UnpackedFloat.compare, signed, then_compare_eq_lt, then_compare_eq_gt] <;> omega

/-- Numbers are ordered as their places are. -/
theorem lt_iff_place {a b : Float} (left : a.isNaN = false) (right : b.isNaN = false) :
    a < b ↔ place a < place b := by
  have decoded := (decodes_unpack left).lt_iff (decodes_unpack right)
  rw [← decoded]
  change decide (a.toModel.unpack.lt b.toModel.unpack = true) = true ↔ _
  rw [decide_eq_true_iff]

theorem compare_notANumber_left (u : UnpackedFloat) :
    UnpackedFloat.compare .notANumber u = none := rfl

theorem compare_notANumber_right (u : UnpackedFloat) : u.compare .notANumber = none := by
  cases u with
  | infinity sign => cases sign <;> rfl
  | notANumber => rfl
  | zero sign => rfl
  | finite sign => cases sign <;> rfl

theorem unpack_eq_notANumber {x : Float} (undefined : x.isNaN = true) :
    x.toModel.unpack = .notANumber :=
  UnpackedFloat.isNaN_iff.mp undefined

/-- Nothing is larger than what is not a number, or smaller. -/
theorem isNaN_eq_false_of_lt {a b : Float} (less : a < b) :
    a.isNaN = false ∧ b.isNaN = false := by
  change decide (a.toModel.unpack.lt b.toModel.unpack = true) = true at less
  rw [decide_eq_true_iff, UnpackedFloat.lt, beq_iff_eq] at less
  constructor
  · rw [Bool.eq_false_iff]
    intro undefined
    rw [unpack_eq_notANumber undefined, compare_notANumber_left] at less
    cases less
  · rw [Bool.eq_false_iff]
    intro undefined
    rw [unpack_eq_notANumber undefined, compare_notANumber_right] at less
    cases less

/-- Every number stands between the two infinities. -/
theorem place_bounds {x : Float} (number : x.isNaN = false) :
    -(infinityBits : Int) ≤ place x ∧ place x ≤ infinityBits := by
  have decoded := decodes_unpack number
  cases unpacked : x.toModel.unpack with
  | notANumber =>
      rw [unpacked] at decoded
      exact absurd decoded id
  | infinity sign =>
      rw [unpacked] at decoded
      rw [show place x = signed sign infinityBits from decoded]
      cases sign <;> simp only [signed] <;> omega
  | zero sign =>
      rw [unpacked] at decoded
      rw [show place x = 0 from decoded]
      omega
  | finite sign mantissa exponent positive =>
      rw [unpacked] at decoded
      have bounds := decoded.1.magnitude_bounds
      rw [decoded.2]
      cases sign <;> simp only [signed] <;> omega

/-! ### Equality up to the sign of zero -/

/-- Zero of either sign. -/
def IsZero (x : Float) : Prop := x = 0.0 ∨ x = -0.0

instance (x : Float) : Decidable (IsZero x) := inferInstanceAs (Decidable (_ ∨ _))

/-- Two doubles are the same, or both are zero and differ in sign. -/
def SameNumber (a b : Float) : Prop := a = b ∨ IsZero a ∧ IsZero b

theorem SameNumber.symm {a b : Float} (same : SameNumber a b) : SameNumber b a :=
  same.imp Eq.symm And.symm

theorem IsZero.not_positive {x : Float} (zero : IsZero x) : ¬ 0.0 < x := by
  rcases zero with rfl | rfl <;> decide

theorem eq_of_toNat_toBits_eq {a b : Float} (same : a.toBits.toNat = b.toBits.toNat) : a = b :=
  Float.toBits_inj.mp (UInt64.toNat_inj.mp same)

theorem isZero_of_place_eq_zero {x : Float} (zero : place x = 0) : IsZero x := by
  have plus : (0.0 : Float).toBits.toNat = 0 := by decide
  have minus : (-0.0 : Float).toBits.toNat = 2 ^ 63 := by decide
  unfold place at zero
  simp only [Nat.pow_eq] at zero
  by_cases positive : x.toBits.toNat < 2 ^ 63
  · rw [if_pos positive] at zero
    exact .inl (eq_of_toNat_toBits_eq (by omega))
  · rw [if_neg positive] at zero
    exact .inr (eq_of_toNat_toBits_eq (by omega))

/-- Doubles that stand in one place are the same number. -/
theorem sameNumber_of_place_eq {a b : Float} (same : place a = place b) : SameNumber a b := by
  by_cases zero : place a = 0
  · exact .inr ⟨isZero_of_place_eq_zero zero, isZero_of_place_eq_zero (same ▸ zero)⟩
  · left
    apply eq_of_toNat_toBits_eq
    unfold place at same zero
    simp only [Nat.pow_eq] at same zero
    split at same <;> split at same <;> omega

theorem SameNumber.eq_of_not_isZero {a b : Float} (same : SameNumber a b) (positive : ¬ IsZero a) :
    a = b := by
  rcases same with same | ⟨zero, _⟩
  · exact same
  · exact absurd zero positive

end WaveMedium.Number
