/-
Module: WaveMedium.Proofs.Number.Value
Purpose: The real numbers that doubles stand for.
Main exports:
  toReal, Canonical, ofFloat_eq_ofUnpacked, ofFloat_ofBits, lt_iff_toReal_lt,
  le_iff_toReal_le, rounded_toReal
-/
import Mathlib
import WaveMedium.Proofs.Number.Rounding
import WaveMedium.Proofs.Number.Tolerance

namespace WaveMedium.Number

open Float.Model (UnpackedFloat)
open Float.Model.UnpackedFloat (Sign)

/-! ### Decoded doubles -/

/-- The real number that a double stands for. -/
noncomputable def toReal (x : Float) : ℝ := (Binary.ofFloat x).toReal

/-- Whether a sign is that of numbers below zero. -/
def isNegative : Sign → Bool
  | .negative => true
  | .positive => false

/-- The parts of a double that core arithmetic works with. -/
def Binary.ofUnpacked : UnpackedFloat → Binary
  | .notANumber => .notANumber
  | .infinity sign => .infinite (isNegative sign)
  | .zero sign => .finite (isNegative sign) 0 (-1074)
  | .finite sign mantissa exponent _ => .finite (isNegative sign) mantissa exponent

theorem isNegative_ofBitVec (b : BitVec Float.Model.Format.binary64.numBits) :
    isNegative (Sign.ofBitVec (UnpackedFloat.unpackSign b)) = decide (Nat.pow 2 63 ≤ b.toNat) := by
  have bound : b.toNat < 2 ^ 64 := b.isLt
  have sign := toNat_unpackSign b
  simp only [Nat.pow_eq] at sign ⊢
  simp only [Sign.ofBitVec, ← BitVec.toNat_inj, sign, BitVec.toNat_ofNat]
  split
  · rw [isNegative, eq_comm, decide_eq_false_iff_not]
    omega
  · rw [isNegative, eq_comm, decide_eq_true_iff]
    omega

/-- What the bits of a double stand for. -/
def Binary.ofBits (bits : Nat) : Binary :=
  if bits / Nat.pow 2 52 % Nat.pow 2 11 = 2047 then
    if bits % Nat.pow 2 52 = 0 then .infinite (decide (Nat.pow 2 63 ≤ bits)) else .notANumber
  else if bits / Nat.pow 2 52 % Nat.pow 2 11 = 0 then
    .finite (decide (Nat.pow 2 63 ≤ bits)) (bits % Nat.pow 2 52) (-1074)
  else
    .finite (decide (Nat.pow 2 63 ≤ bits)) (Nat.pow 2 52 + bits % Nat.pow 2 52)
      ((bits / Nat.pow 2 52 % Nat.pow 2 11 : Nat) - 1075)

theorem ofUnpacked_unpack (b : BitVec Float.Model.Format.binary64.numBits) :
    Binary.ofUnpacked (UnpackedFloat.unpack .binary64 b) = .ofBits b.toNat := by
  have bias : ((Float.Model.Format.binary64.exponentBias : Nat) : Int) = 1023 := rfl
  have top : UnpackedFloat.unpackExponent b = -1#_ ↔ (UnpackedFloat.unpackExponent b).toNat = 2047 :=
    BitVec.toNat_inj.symm
  have bottom : UnpackedFloat.unpackExponent b = 0#_ ↔ (UnpackedFloat.unpackExponent b).toNat = 0 :=
    BitVec.toNat_inj.symm
  have empty : UnpackedFloat.unpackMantissa b = 0#_ ↔ (UnpackedFloat.unpackMantissa b).toNat = 0 :=
    BitVec.toNat_inj.symm
  unfold Binary.ofBits UnpackedFloat.unpack
  dsimp only
  rw [← isNegative_ofBitVec, ← toNat_unpackExponent, ← toNat_unpackMantissa]
  by_cases allOnes : UnpackedFloat.unpackExponent b = -1#_
  · rw [if_pos (top.mp allOnes), if_pos allOnes]
    by_cases noFraction : UnpackedFloat.unpackMantissa b = 0#_
    · rw [if_pos (empty.mp noFraction), if_pos noFraction]
      rfl
    · rw [if_neg (mt empty.mpr noFraction), if_neg noFraction]
      rfl
  · rw [if_neg (mt top.mpr allOnes), if_neg allOnes]
    by_cases subnormal : UnpackedFloat.unpackExponent b = 0#_
    · rw [if_pos (bottom.mp subnormal), if_pos subnormal]
      by_cases noFraction : UnpackedFloat.unpackMantissa b = 0#_
      · rw [dif_pos noFraction, empty.mp noFraction]
        rfl
      · rw [dif_neg noFraction, bottom.mp subnormal]
        rfl
    · rw [if_neg (mt bottom.mpr subnormal), if_neg subnormal, Binary.ofUnpacked, toNat_one_append, bias]
      congr 1

/-- Both ways of taking a double apart find the same parts. -/
theorem ofFloat_eq_ofUnpacked (x : Float) : Binary.ofFloat x = .ofUnpacked x.toModel.unpack :=
  (ofUnpacked_unpack x.toModel.toBits.toBitVec).symm

theorem isFinite_iff {x : Float} :
    x.isFinite = true ↔
      ∃ negative mantissa exponent, Binary.ofFloat x = .finite negative mantissa exponent := by
  rw [ofFloat_eq_ofUnpacked]
  change x.toModel.unpack.isFinite = true ↔ _
  cases x.toModel.unpack with
  | notANumber => exact ⟨nofun, nofun⟩
  | infinity sign => exact ⟨nofun, nofun⟩
  | zero sign => exact ⟨fun _ => ⟨_, _, _, rfl⟩, fun _ => rfl⟩
  | finite sign mantissa exponent positive => exact ⟨fun _ => ⟨_, _, _, rfl⟩, fun _ => rfl⟩

/-! ### Canonical parts -/

/-- Mantissa and exponent of a rounded number: the mantissa has all its digits unless the exponent is the
least.  Zero has the least exponent. -/
structure Fitted (mantissa : Nat) (exponent : Int) : Prop where
  small : mantissa < 2 ^ 53
  least : -1074 ≤ exponent
  normal : 2 ^ 52 ≤ mantissa ∨ exponent = -1074

/-- Mantissa and exponent of a finite double. -/
structure Canonical (mantissa : Nat) (exponent : Int) : Prop extends Fitted mantissa exponent where
  most : exponent ≤ 971

theorem fitted_zero : Fitted 0 (-1074) := by constructor <;> omega

theorem canonical_zero : Canonical 0 (-1074) := ⟨fitted_zero, by omega⟩

theorem Normalized.canonical {m : Nat} {e : Int} (normalized : Normalized m e) : Canonical m e :=
  ⟨⟨normalized.small, normalized.least, normalized.normal⟩, normalized.most⟩

namespace Canonical

variable {m n : Nat} {e f : Int}

theorem magnitude_lt_iff (left : Canonical m e) (right : Canonical n f) :
    magnitude m e < magnitude n f ↔ e < f ∨ e = f ∧ m < n := by
  rcases left with ⟨⟨small, least, normal⟩, _⟩
  rcases right with ⟨⟨smaller, lower, other⟩, _⟩
  simp only [magnitude, Nat.pow_eq]
  omega

/-- Of two numbers the one with the larger exponent is larger. -/
theorem mul_zpow_lt_of_lt (left : Canonical m e) (right : Canonical n f) (less : e < f) :
    (m : ℝ) * 2 ^ e < n * 2 ^ f := by
  have full : (2 ^ 52 : ℕ) ≤ n := by
    rcases right.normal with full | least
    · exact full
    · exact absurd (left.least.trans_lt less) (by omega)
  have small : (m : ℝ) < (2 ^ 53 : ℕ) := Nat.cast_lt.mpr left.small
  have large : ((2 ^ 52 : ℕ) : ℝ) ≤ n := Nat.cast_le.mpr full
  calc (m : ℝ) * 2 ^ e
    _ < (2 ^ 53 : ℕ) * 2 ^ e := mul_lt_mul_of_pos_right small (zpow_pos two_pos _)
    _ = (2 ^ 52 : ℕ) * 2 ^ (e + 1) := by
      rw [zpow_add_one₀ two_ne_zero]
      push_cast
      ring
    _ ≤ n * 2 ^ f := by
      apply mul_le_mul large _ (zpow_nonneg two_pos.le _) (Nat.cast_nonneg _)
      exact zpow_le_zpow_right₀ one_le_two (by omega)

/-- Places are ordered as the numbers are that stand there. -/
theorem magnitude_lt_iff_mul_zpow_lt (left : Canonical m e) (right : Canonical n f) :
    magnitude m e < magnitude n f ↔ (m : ℝ) * 2 ^ e < n * 2 ^ f := by
  rw [left.magnitude_lt_iff right]
  rcases lt_trichotomy e f with less | rfl | more
  · simp [less, left.mul_zpow_lt_of_lt right less]
  · have same : (m : ℝ) * 2 ^ e < n * 2 ^ e ↔ m < n := by
      rw [mul_lt_mul_iff_left₀ (zpow_pos two_pos _), Nat.cast_lt]
    simp [same]
  · have apart := (right.mul_zpow_lt_of_lt left more).not_gt
    simp only [apart, iff_false]
    omega

theorem magnitude_pos_iff (canonical : Canonical m e) : 0 < magnitude m e ↔ (0 : ℝ) < m * 2 ^ e := by
  rw [mul_pos_iff_of_pos_right (zpow_pos two_pos _), Nat.cast_pos]
  constructor
  · intro above
    apply Nat.pos_of_ne_zero
    rintro rfl
    have least : e = -1074 := canonical.normal.resolve_left (by norm_num)
    rw [magnitude, least] at above
    simp at above
  · intro positive
    exact positive.trans_le (Nat.le_add_left _ _)

end Canonical

theorem signed_eq (sign : Sign) (n : Nat) :
    signed sign n = if isNegative sign then -(n : Int) else n := by
  cases sign <;> rfl

/-- A finite double, taken apart. -/
theorem exists_canonical {x : Float} (finite : x.isFinite = true) :
    ∃ negative mantissa exponent, Binary.ofFloat x = .finite negative mantissa exponent ∧
      Canonical mantissa exponent ∧
      place x = if negative then -(magnitude mantissa exponent : Int) else magnitude mantissa exponent := by
  have decoded := decodes_unpack (isNaN_eq_false_of_isFinite finite)
  rw [ofFloat_eq_ofUnpacked]
  change x.toModel.unpack.isFinite = true at finite
  cases parts : x.toModel.unpack with
  | notANumber =>
      rw [parts] at finite
      cases finite
  | infinity sign =>
      rw [parts] at finite
      cases finite
  | zero sign =>
      rw [parts] at decoded
      have vanishes : magnitude 0 (-1074) = 0 := by simp [magnitude]
      refine ⟨isNegative sign, 0, -1074, rfl, canonical_zero, ?_⟩
      rw [show place x = 0 from decoded, vanishes]
      simp
  | finite sign mantissa exponent positive =>
      rw [parts] at decoded
      refine ⟨_, _, _, rfl, decoded.1.canonical, ?_⟩
      rw [decoded.2, signed_eq]

/-! ### Bits of a canonical number -/

theorem signBit_eq (negative : Bool) : signBit negative = 2 ^ 63 * negative.toNat := by
  cases negative <;> rfl

theorem ofBits_magnitude {m : Nat} {e : Int} (canonical : Canonical m e) (negative : Bool) :
    Binary.ofBits (signBit negative + magnitude m e) = .finite negative m e := by
  rcases canonical with ⟨⟨small, least, normal⟩, most⟩
  obtain ⟨k, spot⟩ : ∃ k : Nat, e = (k : Int) - 1074 := ⟨(e + 1074).toNat, by omega⟩
  have lifted : (e + 1074).toNat = k := by omega
  have sign : decide (2 ^ 63 ≤ signBit negative + (k * 2 ^ 52 + m)) = negative := by
    cases negative with
    | false =>
        rw [decide_eq_false_iff_not, signBit_eq, Bool.toNat_false]
        omega
    | true =>
        rw [decide_eq_true_iff, signBit_eq, Bool.toNat_true]
        omega
  have bit : negative.toNat ≤ 1 := negative.toNat_le
  have field : (signBit negative + (k * 2 ^ 52 + m)) / 2 ^ 52 % 2 ^ 11 = (k * 2 ^ 52 + m) / 2 ^ 52 := by
    rw [signBit_eq]
    omega
  have fraction : (signBit negative + (k * 2 ^ 52 + m)) % 2 ^ 52 = m % 2 ^ 52 := by
    rw [signBit_eq]
    omega
  simp only [Binary.ofBits, magnitude, Nat.pow_eq, lifted, sign, field, fraction]
  by_cases full : 2 ^ 52 ≤ m
  · have top : (k * 2 ^ 52 + m) / 2 ^ 52 = k + 1 := by omega
    have mantissa : 2 ^ 52 + m % 2 ^ 52 = m := by omega
    rw [top, if_neg (by omega), if_neg (by omega), mantissa]
    congr 1
    omega
  · have lowest : k = 0 := by omega
    have top : (k * 2 ^ 52 + m) / 2 ^ 52 = 0 := by omega
    have mantissa : m % 2 ^ 52 = m := by omega
    rw [top, if_neg (by omega), if_pos rfl, mantissa]
    congr 1
    omega

theorem ofBits_infinityBits (negative : Bool) :
    Binary.ofBits (signBit negative + infinityBits) = .infinite negative := by
  cases negative <;> decide

theorem signBit_add_lt {bits : Nat} (below : bits < 2 ^ 63) (negative : Bool) :
    signBit negative + bits < 2 ^ 64 := by
  have bit : negative.toNat ≤ 1 := negative.toNat_le
  rw [signBit_eq]
  omega

/-- The finite doubles stand before infinity. -/
theorem Canonical.magnitude_lt {m : Nat} {e : Int} (canonical : Canonical m e) :
    magnitude m e < infinityBits := by
  rcases canonical with ⟨⟨small, least, normal⟩, most⟩
  simp only [magnitude, infinityBits, Nat.pow_eq]
  omega

/-- Every finite double stands between the two infinities. -/
theorem place_bounds_of_isFinite {x : Float} (finite : x.isFinite = true) :
    -(infinityBits : Int) < place x ∧ place x < infinityBits := by
  obtain ⟨negative, m, e, _, canonical, spot⟩ := exists_canonical finite
  have small := canonical.magnitude_lt
  rw [spot]
  split <;> omega

theorem Fitted.le_magnitude {m : Nat} {e : Int} (fitted : Fitted m e) (beyond : 971 < e) :
    infinityBits ≤ magnitude m e := by
  rcases fitted with ⟨_, _, normal⟩
  simp only [magnitude, infinityBits, Nat.pow_eq]
  omega

theorem infinityBits_lt : infinityBits < 2 ^ 63 := by decide

/-- Packing what was unpacked keeps what the bits stand for. -/
theorem unpack_pack_unpack (b : BitVec Float.Model.Format.binary64.numBits) :
    UnpackedFloat.unpack .binary64 (UnpackedFloat.pack .binary64 (UnpackedFloat.unpack .binary64 b)) =
      UnpackedFloat.unpack .binary64 b := by
  rw [UnpackedFloat.pack_unpack]
  split
  · rename_i undefined
    have bits := of_decide_eq_true undefined
    rw [UnpackedFloat.unpack_packedNaN, UnpackedFloat.unpack]
    simp [bits]
  · rfl

/-- The double with given bits stands for what the bits do. -/
theorem ofFloat_ofBits (bits : UInt64) : Binary.ofFloat (Float.ofBits bits) = .ofBits bits.toNat := by
  rw [ofFloat_eq_ofUnpacked]
  change Binary.ofUnpacked (UnpackedFloat.unpack .binary64
    (UnpackedFloat.pack .binary64 (UnpackedFloat.unpack .binary64 bits.toBitVec))) = _
  rw [unpack_pack_unpack, ofUnpacked_unpack]
  rfl

theorem isNegative_inj {s t : Sign} (same : isNegative s = isNegative t) : s = t := by
  cases s <;> cases t <;> first | rfl | cases same

/-- The parts of a double determine it. -/
theorem ofUnpacked_injective : Function.Injective Binary.ofUnpacked := by
  intro u v same
  cases u with
  | notANumber => cases v <;> first | rfl | cases same
  | infinity s =>
      cases v with
      | infinity t =>
          injection same with signs
          rw [isNegative_inj signs]
      | _ => cases same
  | zero s =>
      cases v with
      | zero t =>
          injection same with signs
          rw [isNegative_inj signs]
      | finite t n f above =>
          injection same with _ vanishes
          exact absurd vanishes above.ne
      | _ => cases same
  | finite s m e positive =>
      cases v with
      | zero t =>
          injection same with _ vanishes
          exact absurd vanishes.symm positive.ne
      | finite t n f above =>
          injection same with signs mantissas exponents
          cases isNegative_inj signs
          cases mantissas
          cases exponents
          rfl
      | _ => cases same

theorem ofFloat_injective : Function.Injective Binary.ofFloat := by
  intro x y same
  rw [ofFloat_eq_ofUnpacked, ofFloat_eq_ofUnpacked] at same
  have bits := (UnpackedFloat.unpack_inj_of_valid x.toModel.valid y.toModel.valid).mp
    (ofUnpacked_injective same)
  exact Float.toBits_inj.mp (UInt64.toBitVec_inj.mp bits)

/-- A finite number with canonical parts is packed without loss. -/
theorem unpack_pack_of_canonical {sign : Sign} {m : Nat} {e : Int} {positive : 0 < m}
    (canonical : Canonical m e) :
    (Float.Model.pack (.finite sign m e positive)).unpack = .finite sign m e positive := by
  have bound := signBit_add_lt (canonical.magnitude_lt.trans infinityBits_lt) (isNegative sign)
  obtain ⟨bits, digits⟩ : ∃ bits : BitVec Float.Model.Format.binary64.numBits,
      bits.toNat = signBit (isNegative sign) + magnitude m e :=
    ⟨BitVec.ofNat 64 _, (BitVec.toNat_ofNat _ 64).trans (Nat.mod_eq_of_lt bound)⟩
  have source : UnpackedFloat.unpack .binary64 bits = .finite sign m e positive := by
    apply ofUnpacked_injective
    rw [ofUnpacked_unpack, digits, ofBits_magnitude canonical]
    rfl
  rw [← source]
  exact unpack_pack_unpack bits

/-! ### The order of finite doubles -/

section Order

variable {x y : Float}

theorem toReal_of_ofFloat {negative : Bool} {mantissa : Nat} {exponent : Int}
    (parts : Binary.ofFloat x = .finite negative mantissa exponent) :
    toReal x = if negative then -(mantissa * 2 ^ exponent : ℝ) else mantissa * 2 ^ exponent := by
  rw [toReal, parts, Binary.toReal_finite]

theorem spec_of_parts {x : Float} {m : Nat} {e : Int} (parts : Binary.ofFloat x = .finite false m e) :
    x.isFinite = true ∧ toReal x = m * 2 ^ e :=
  ⟨isFinite_iff.mpr ⟨_, _, _, parts⟩, toReal_of_ofFloat parts⟩

theorem mul_zpow_nonneg (m : Nat) (e : Int) : (0 : ℝ) ≤ m * 2 ^ e := by positivity

theorem place_lt_iff_toReal_lt (left : x.isFinite = true) (right : y.isFinite = true) :
    place x < place y ↔ toReal x < toReal y := by
  obtain ⟨s, m, e, parts, canonical, spot⟩ := exists_canonical left
  obtain ⟨t, n, f, others, other, spots⟩ := exists_canonical right
  have up := canonical.magnitude_lt_iff_mul_zpow_lt other
  have down := other.magnitude_lt_iff_mul_zpow_lt canonical
  have sign := canonical.magnitude_pos_iff
  have signs := other.magnitude_pos_iff
  rw [spot, spots, toReal_of_ofFloat parts, toReal_of_ofFloat others]
  generalize magnitude m e = A at *
  generalize magnitude n f = B at *
  have above := mul_zpow_nonneg m e
  have beyond := mul_zpow_nonneg n f
  generalize (m : ℝ) * 2 ^ e = a at *
  generalize (n : ℝ) * 2 ^ f = b at *
  cases s with
  | false =>
      cases t with
      | false => simpa using up
      | true =>
          have notBelow : ¬ (A : Int) < -B := by omega
          have notLess : ¬ a < -b := by linarith
          simp [notBelow, notLess]
  | true =>
      cases t with
      | false =>
          have places : -(A : Int) < B ↔ 0 < A ∨ 0 < B := by omega
          have numbers : -a < b ↔ 0 < a ∨ 0 < b := by
            constructor
            · intro less
              by_contra! nonpositive
              linarith
            · rintro (positive | positive) <;> linarith
          simp [places, numbers, sign, signs]
      | true => simpa using down

/-- Finite doubles are ordered as the real numbers that they stand for. -/
theorem lt_iff_toReal_lt (left : x.isFinite = true) (right : y.isFinite = true) :
    x < y ↔ toReal x < toReal y := by
  rw [lt_iff_place (isNaN_eq_false_of_isFinite left) (isNaN_eq_false_of_isFinite right),
    place_lt_iff_toReal_lt left right]

theorem compare_swap (u v : UnpackedFloat) : v.compare u = (u.compare v).map Ordering.swap := by
  cases u with
  | notANumber => rw [compare_notANumber_left, compare_notANumber_right]; rfl
  | infinity s =>
      cases v with
      | notANumber => cases s <;> rfl
      | infinity t => cases s <;> cases t <;> rfl
      | zero t => cases s <;> rfl
      | finite t n f _ => cases s <;> rfl
  | zero s =>
      cases v with
      | notANumber => rfl
      | infinity t => cases t <;> rfl
      | zero t => rfl
      | finite t n f _ => cases t <;> rfl
  | finite s m e _ =>
      cases v with
      | notANumber => cases s <;> rfl
      | infinity t => cases s <;> cases t <;> rfl
      | zero t => cases s <;> rfl
      | finite t n f _ =>
          have parts : (compare f e).then (compare n m) = ((compare e f).then (compare m n)).swap := by
            rw [Ordering.swap_then, ← Std.OrientedCmp.eq_swap, ← Std.OrientedCmp.eq_swap]
          cases s <;> cases t <;> simp [UnpackedFloat.compare, parts]

theorem exists_compare {u v : UnpackedFloat} (left : u.isNaN = false) (right : v.isNaN = false) :
    ∃ order, u.compare v = some order := by
  cases u with
  | notANumber => cases left
  | infinity s =>
      cases v with
      | notANumber => cases right
      | infinity t => exact ⟨_, rfl⟩
      | zero t => cases s <;> exact ⟨_, rfl⟩
      | finite t n f _ => cases s <;> exact ⟨_, rfl⟩
  | zero s =>
      cases v with
      | notANumber => cases right
      | infinity t => cases t <;> exact ⟨_, rfl⟩
      | zero t => exact ⟨_, rfl⟩
      | finite t n f _ => cases t <;> exact ⟨_, rfl⟩
  | finite s m e _ =>
      cases v with
      | notANumber => cases right
      | infinity t => cases s <;> cases t <;> exact ⟨_, rfl⟩
      | zero t => cases s <;> exact ⟨_, rfl⟩
      | finite t n f _ => cases s <;> cases t <;> exact ⟨_, rfl⟩

/-- One number is at most another exactly if the other is not below it. -/
theorem le_iff_not_lt (left : x.isNaN = false) (right : y.isNaN = false) : x ≤ y ↔ ¬ y < x := by
  change decide (x.toModel.unpack.le y.toModel.unpack = true) = true ↔
    ¬ decide (y.toModel.unpack.lt x.toModel.unpack = true) = true
  obtain ⟨order, compared⟩ : ∃ order, x.toModel.unpack.compare y.toModel.unpack = some order :=
    exists_compare left right
  rw [decide_eq_true_iff, decide_eq_true_iff, UnpackedFloat.lt, UnpackedFloat.le, beq_iff_eq,
    compare_swap x.toModel.unpack, compared]
  cases order <;> simp

theorem le_iff_toReal_le (left : x.isFinite = true) (right : y.isFinite = true) :
    x ≤ y ↔ toReal x ≤ toReal y := by
  rw [le_iff_not_lt (isNaN_eq_false_of_isFinite left) (isNaN_eq_false_of_isFinite right),
    lt_iff_toReal_lt right left, not_lt]

end Order

/-! ### The size of finite doubles -/

theorem Canonical.rounded {m : Nat} {e : Int} (canonical : Canonical m e) :
    Format.double.rounded (m * 2 ^ e) = m * 2 ^ e :=
  Format.rounded_of_multiple canonical.small canonical.least

theorem Canonical.mul_zpow_lt {m : Nat} {e : Int} (canonical : Canonical m e) :
    (m : ℝ) * 2 ^ e < 2 ^ (1024 : ℤ) := by
  have small : (m : ℝ) < (2 ^ 53 : ℕ) := Nat.cast_lt.mpr canonical.small
  calc (m : ℝ) * 2 ^ e
    _ < (2 ^ 53 : ℕ) * 2 ^ e := mul_lt_mul_of_pos_right small (zpow_pos two_pos _)
    _ = 2 ^ ((53 : ℕ) + e) := by
      rw [zpow_add₀ two_ne_zero, zpow_natCast]
      norm_num
    _ ≤ 2 ^ (1024 : ℤ) := zpow_le_zpow_right₀ one_le_two (by have := canonical.most; omega)

section Size

variable {x : Float} (finite : x.isFinite = true)
include finite

/-- Rounding does not change what a double stands for. -/
theorem rounded_toReal : Format.double.rounded (toReal x) = toReal x := by
  obtain ⟨negative, m, e, parts, canonical, _⟩ := exists_canonical finite
  rw [toReal_of_ofFloat parts]
  cases negative with
  | false => simpa using canonical.rounded
  | true => simpa using canonical.rounded

theorem abs_toReal_lt : |toReal x| < 2 ^ (1024 : ℤ) := by
  obtain ⟨negative, m, e, parts, canonical, _⟩ := exists_canonical finite
  have size : |toReal x| = m * 2 ^ e := by
    rw [toReal_of_ofFloat parts]
    cases negative with
    | false => simp
    | true => simp
  rw [size]
  exact canonical.mul_zpow_lt

end Size

end WaveMedium.Number
