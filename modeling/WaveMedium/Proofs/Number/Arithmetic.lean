/-
Module: WaveMedium.Proofs.Number.Arithmetic
Purpose: Arithmetic of doubles gives the double nearest to the exact result.
Main exports:
  Brackets, rounds_add, rounds_sub, rounds_mul, rounds_div, rounds_sqrt
-/
import Mathlib
import WaveMedium.Proofs.Number.Nearest

namespace WaveMedium.Number

open Float.Model (UnpackedFloat)
open Float.Model.UnpackedFloat (Sign Accuracy ExtendedMantissa)

/-! ### Mantissas with residual bits -/

/-- A mantissa with its residual bits says of a real number where its double lies between whole numbers: in
which unit interval, and whether at the start of it. -/
structure Brackets (em : ExtendedMantissa) (t : ℝ) : Prop where
  lower : ((2 * em.mantissa + em.roundBit.toNat : ℕ) : ℝ) ≤ 2 * t
  upper : 2 * t < (2 * em.mantissa + em.roundBit.toNat : ℕ) + 1
  exact_iff : em.stickyBit = false ↔ 2 * t = (2 * em.mantissa + em.roundBit.toNat : ℕ)

namespace Brackets

variable {em : ExtendedMantissa} {t : ℝ}

theorem exact (m : ℕ) : Brackets ⟨m, false, false⟩ m where
  lower := by simp
  upper := by simp
  exact_iff := by simp

theorem of_lt_half {m : ℕ} (above : m < t) (near : t < m + 1 / 2) : Brackets ⟨m, false, true⟩ t where
  lower := by
    push_cast [Bool.toNat_false]
    linarith
  upper := by
    push_cast [Bool.toNat_false]
    linarith
  exact_iff := by
    push_cast [Bool.toNat_false]
    constructor
    · nofun
    · intro same
      linarith

theorem of_half {m : ℕ} (half : t = m + 1 / 2) : Brackets ⟨m, true, false⟩ t where
  lower := by
    push_cast [Bool.toNat_true]
    linarith
  upper := by
    push_cast [Bool.toNat_true]
    linarith
  exact_iff := by
    push_cast [Bool.toNat_true]
    constructor
    · intro _
      linarith
    · exact fun _ => rfl

theorem of_half_lt {m : ℕ} (far : m + 1 / 2 < t) (below : t < m + 1) : Brackets ⟨m, true, true⟩ t where
  lower := by
    push_cast [Bool.toNat_true]
    linarith
  upper := by
    push_cast [Bool.toNat_true]
    linarith
  exact_iff := by
    push_cast [Bool.toNat_true]
    constructor
    · nofun
    · intro same
      linarith

theorem mantissa_le (brackets : Brackets em t) : (em.mantissa : ℝ) ≤ t := by
  have lower := brackets.lower
  push_cast at lower
  linarith [(Nat.cast_nonneg em.roundBit.toNat : (0 : ℝ) ≤ _)]

theorem lt_mantissa_add_one (brackets : Brackets em t) : t < em.mantissa + 1 := by
  have upper := brackets.upper
  have bit : (em.roundBit.toNat : ℝ) ≤ 1 := by exact_mod_cast em.roundBit.toNat_le
  push_cast at upper
  linarith

theorem nonneg (brackets : Brackets em t) : 0 ≤ t := (Nat.cast_nonneg _).trans brackets.mantissa_le

theorem eq_mantissa_iff (brackets : Brackets em t) :
    t = em.mantissa ↔ em.roundBit = false ∧ em.stickyBit = false := by
  rw [brackets.exact_iff]
  cases bit : em.roundBit with
  | false => simp
  | true =>
      have lower := brackets.lower
      rw [bit, Bool.toNat_true] at lower
      push_cast at lower
      have above : t ≠ em.mantissa := by
        intro same
        linarith
      simp [above]

/-- Halving moves the last digit of the mantissa to the round bit. -/
theorem shiftRightOne (brackets : Brackets em t) : Brackets em.shiftRightOne (t / 2) := by
  have digits : 2 * (em.mantissa / 2) + (em.mantissa % 2 != 0).toNat = em.mantissa := by
    have parts := Nat.div_add_mod em.mantissa 2
    rcases Nat.mod_two_eq_zero_or_one em.mantissa with even | odd
    · simp only [even, bne_self_eq_false, Bool.toNat_false]
      omega
    · simp only [odd]
      change 2 * (em.mantissa / 2) + 1 = _
      omega
  have double : 2 * (t / 2) = t := by ring
  refine ⟨?_, ?_, ?_⟩
  · change ((2 * (em.mantissa / 2) + (em.mantissa % 2 != 0).toNat : ℕ) : ℝ) ≤ _
    rw [digits, double]
    exact brackets.mantissa_le
  · change _ < ((2 * (em.mantissa / 2) + (em.mantissa % 2 != 0).toNat : ℕ) : ℝ) + 1
    rw [digits, double]
    exact brackets.lt_mantissa_add_one
  · change (em.roundBit || em.stickyBit) = false ↔
      2 * (t / 2) = ((2 * (em.mantissa / 2) + (em.mantissa % 2 != 0).toNat : ℕ) : ℝ)
    rw [digits, double, brackets.eq_mantissa_iff, Bool.or_eq_false_iff]

theorem shiftRight (brackets : Brackets em t) (n : ℕ) : Brackets (em >>> n) (t / 2 ^ n) := by
  change Brackets (n.repeat ExtendedMantissa.shiftRightOne em) _
  induction n with
  | zero => simpa [Nat.repeat] using brackets
  | succ n ih =>
      rw [Nat.repeat, pow_succ, ← div_div]
      exact ih.shiftRightOne

/-- The residual bits decide about rounding as the real number does. -/
theorem roundedMantissa_eq (brackets : Brackets em t) : em.roundedMantissa = halfEven t := by
  rcases em with ⟨m, round, sticky⟩
  rcases brackets with ⟨lower, upper, exact_iff⟩
  cases round with
  | false =>
      push_cast [Bool.toNat_false] at lower upper exact_iff
      have below : halfEven t = m := halfEven_of_lt_half (by linarith) (by linarith)
      rw [below]
      cases sticky <;> rfl
  | true =>
      push_cast [Bool.toNat_true] at lower upper exact_iff
      cases sticky with
      | false =>
          have half : 2 * t = 2 * m + 1 := exact_iff.mp rfl
          exact (halfEven_of_half (by linarith)).symm
      | true =>
          have apart : 2 * t ≠ 2 * m + 1 := fun same => Bool.noConfusion (exact_iff.mpr same)
          have more : 2 * (m : ℝ) + 1 < 2 * t := lt_of_le_of_ne lower apart.symm
          exact (halfEven_of_half_lt (by linarith) (by linarith)).symm

end Brackets

/-! ### Rounding a mantissa with residual bits -/

/-- The number with a sign, a mantissa that can be zero, and an exponent. -/
def finiteOrZero (sign : Sign) (mantissa : ℕ) (exponent : ℤ) : UnpackedFloat :=
  if zero : mantissa = 0 then .zero sign else .finite sign mantissa exponent (Nat.pos_of_ne_zero zero)

/-- The exponent that core arithmetic aims at. -/
def aim (mantissa : ℕ) (exponent : ℤ) : ℤ := max (mantissa.log2 + 1 + exponent - 53) (-1074)

/-- A count of spacings, brought back to a mantissa when it is one digit too long. -/
def carried (sign : Sign) (count : ℕ) (exponent : ℤ) : UnpackedFloat :=
  finiteOrZero sign
    (ExtendedMantissa.ofMantissaAndAccuracy count .exact >>>
      (aim count exponent - exponent).toNat).mantissa
    (exponent + (aim count exponent - exponent).toNat)

theorem roundWithAccuracy_eq_carried (sign : Sign) (m : ℕ) (e : ℤ) (accuracy : Accuracy) :
    UnpackedFloat.roundWithAccuracy .binary64 sign m e accuracy =
      carried sign
        (ExtendedMantissa.ofMantissaAndAccuracy m accuracy >>> (aim m e - e).toNat).roundedMantissa
        (e + (aim m e - e).toNat) := rfl

theorem carried_zero (sign : Sign) (g : ℤ) : carried sign 0 g = .zero sign := by
  have brackets := (Brackets.exact 0).shiftRight (aim 0 g - g).toNat
  have least := brackets.mantissa_le
  rw [Nat.cast_zero, zero_div] at least
  have vanishes : ((⟨0, false, false⟩ : ExtendedMantissa) >>> (aim 0 g - g).toNat).mantissa = 0 :=
    Nat.le_zero.mp (by exact_mod_cast least)
  exact dif_pos vanishes

section Round

variable {sign : Sign} {m : ℕ} {e : ℤ} {accuracy : Accuracy} {t : ℝ}

/-- The aim is the spacing of doubles near the number whose mantissa was cut off. -/
theorem grain_eq_aim (lower : (m : ℝ) ≤ t) (upper : t < m + 1) (fine : e ≤ aim m e)
    (positive : 0 < t) : Format.double.grain (t * 2 ^ e) = aim m e := by
  have above : 0 < t * 2 ^ e := mul_pos positive (zpow_pos two_pos _)
  change max (Int.log 2 (t * 2 ^ e) + 1 - 53) (-1074) = _
  rcases m.eq_zero_or_pos with rfl | nonzero
  · have tiny : Int.log 2 (t * 2 ^ e) < e := by
      apply Format.log_lt_of_lt above
      rw [Nat.cast_zero, zero_add] at upper
      exact mul_lt_of_lt_one_left (zpow_pos two_pos _) upper
    simp only [aim, Nat.log2_zero] at fine ⊢
    omega
  · have start : (m : ℝ) * 2 ^ e ≤ t * 2 ^ e :=
      mul_le_mul_of_nonneg_right lower (zpow_nonneg two_pos.le _)
    have top : t < (2 ^ (m.log2 + 1) : ℕ) := by
      have next : m + 1 ≤ 2 ^ (m.log2 + 1) := Nat.lt_log2_self
      have cast : ((m + 1 : ℕ) : ℝ) ≤ (2 ^ (m.log2 + 1) : ℕ) := Nat.cast_le.mpr next
      push_cast at cast ⊢
      linarith
    have log : Int.log 2 (t * 2 ^ e) = m.log2 + e := by
      apply le_antisymm
      · apply Int.lt_add_one_iff.mp
        apply Format.log_lt_of_lt above
        rw [show (m.log2 : ℤ) + e + 1 = (m.log2 + 1 : ℕ) + e by push_cast; ring,
          zpow_add₀ two_ne_zero, zpow_natCast]
        exact mul_lt_mul_of_pos_right (by exact_mod_cast top) (zpow_pos two_pos _)
      · rw [← Format.log_mul_two_zpow nonzero]
        exact Int.log_mono_right (mul_pos (Nat.cast_pos.mpr nonzero) (zpow_pos two_pos _)) start
    rw [log, aim]
    congr 1
    ring

/-- Bringing a count back to a mantissa is what the carry does. -/
theorem carried_eq (sign : Sign) {n : ℕ} {g : ℤ} (least : -1074 ≤ g) (few : n ≤ 2 ^ 53) :
    carried sign n g = finiteOrZero sign (carry n g).1 (carry n g).2 := by
  unfold carry
  split
  · rename_i short
    have aimed : (aim n g - g).toNat = 0 := by
      rcases n.eq_zero_or_pos with rfl | nonzero
      · simp only [aim, Nat.log2_zero]
        omega
      · have digits : n.log2 < 53 := (Nat.log2_lt nonzero.ne').mpr short
        simp only [aim]
        omega
    rw [carried, aimed, Nat.cast_zero, add_zero]
    rfl
  · rename_i long
    cases le_antisymm few (Nat.not_lt.mp long)
    have digits : (2 ^ 53).log2 = 53 := Nat.log2_two_pow
    have aimed : (aim (2 ^ 53) g - g).toNat = 1 := by
      simp only [aim, digits]
      omega
    rw [carried, aimed]
    rfl

/-- A bracketed mantissa is rounded to the parts of the double nearest to what it stands for. -/
theorem exists_fitted (sign : Sign)
    (brackets : Brackets (ExtendedMantissa.ofMantissaAndAccuracy m accuracy) t) (fine : e ≤ aim m e) :
    ∃ k f, Fitted k f ∧ (k : ℝ) * 2 ^ f = Format.double.rounded (t * 2 ^ e) ∧
      UnpackedFloat.roundWithAccuracy .binary64 sign m e accuracy = finiteOrZero sign k f := by
  have mantissa : (ExtendedMantissa.ofMantissaAndAccuracy m accuracy).mantissa = m := by
    rcases accuracy with _ | (_ | _ | _) <;> rfl
  have lower : (m : ℝ) ≤ t := mantissa ▸ brackets.mantissa_le
  have upper : t < m + 1 := mantissa ▸ brackets.lt_mantissa_add_one
  have goal : e + ((aim m e - e).toNat : ℤ) = aim m e := by omega
  rw [roundWithAccuracy_eq_carried, (brackets.shiftRight _).roundedMantissa_eq, goal]
  rcases brackets.nonneg.eq_or_lt with rfl | positive
  · have vanishes : halfEven (0 / 2 ^ (aim m e - e).toNat) = 0 := by
      rw [zero_div]
      simpa using halfEven_natCast 0
    rw [vanishes, zero_mul, Format.rounded_zero]
    exact ⟨0, -1074, fitted_zero, by simp, carried_zero sign _⟩
  · have above : 0 < t * 2 ^ e := mul_pos positive (zpow_pos two_pos _)
    have grain := grain_eq_aim lower upper fine positive
    have count : halfEven (t / 2 ^ (aim m e - e).toNat) = Format.double.count (t * 2 ^ e) := by
      have apart : (2 : ℝ) ^ e ≠ 0 := zpow_ne_zero _ two_ne_zero
      rw [Format.count, Format.gap, grain, ← goal, zpow_add₀ two_ne_zero, zpow_natCast, goal]
      congr 1
      field_simp
    rw [count, ← grain]
    refine ⟨_, _, fitted_count above, ?_, carried_eq sign (le_max_right _ _) (Format.count_le _ _)⟩
    rw [carry_mul_zpow (Format.count_le _ _), Format.rounded_of_nonneg _ above.le]
    rfl

end Round

/-! ### Signs -/

/-- The unit with a sign. -/
def unit : Sign → ℝ
  | .negative => -1
  | .positive => 1

theorem ite_isNegative (sign : Sign) (r : ℝ) : (if isNegative sign then -r else r) = unit sign * r := by
  cases sign with
  | negative => simp [isNegative, unit]
  | positive => simp [isNegative, unit]

theorem unit_mul (s t : Sign) : unit (s * t) = unit s * unit t := by
  cases s with
  | negative =>
      cases t with
      | negative =>
          change (1 : ℝ) = -1 * -1
          norm_num
      | positive =>
          change (-1 : ℝ) = -1 * 1
          norm_num
  | positive =>
      cases t with
      | negative =>
          change (-1 : ℝ) = 1 * -1
          norm_num
      | positive =>
          change (1 : ℝ) = 1 * 1
          norm_num

theorem unit_div (s t : Sign) : unit (s / t) = unit s / unit t := by
  cases s with
  | negative =>
      cases t with
      | negative =>
          change (1 : ℝ) = -1 / -1
          norm_num
      | positive =>
          change (-1 : ℝ) = -1 / 1
          norm_num
  | positive =>
      cases t with
      | negative =>
          change (-1 : ℝ) = 1 / -1
          norm_num
      | positive =>
          change (1 : ℝ) = 1 / 1
          norm_num

theorem unit_neg (s : Sign) : unit (-s) = -unit s := by
  cases s with
  | negative => exact (neg_neg 1).symm
  | positive => rfl

/-! ### Packing -/

section Pack

variable {x : Float} {sign : Sign} {k : ℕ} {f : ℤ}

theorem unpack_pack_of_large {positive : 0 < k} (beyond : 971 < f) :
    (Float.Model.pack (.finite sign k f positive)).unpack = .infinity sign := by
  have endless : UnpackedFloat.pack .binary64 (.finite sign k f positive) =
      UnpackedFloat.pack .binary64 (.infinity sign) := by
    have top : 2 ^ 11 ≤ (f + (1023 : ℕ) + (52 : ℕ)).toNat + 1 := by omega
    exact if_pos top
  change UnpackedFloat.unpack .binary64 (UnpackedFloat.pack .binary64 _) = _
  rw [endless]
  cases sign <;> rfl

/-- A double that was packed from the parts of the nearest number rounds it. -/
theorem rounds_of_packed {r : ℝ} (above : 0 ≤ r) (fitted : Fitted k f)
    (size : (k : ℝ) * 2 ^ f = Format.double.rounded r)
    (packed : x.toModel = Float.Model.pack (finiteOrZero sign k f)) :
    Rounds .double x (unit sign * r) := by
  have parts : x.toModel.unpack = (Float.Model.pack (finiteOrZero sign k f)).unpack := by rw [packed]
  rw [← ite_isNegative]
  apply rounds_of_fitted above fitted size
  · intro most
    rw [ofFloat_eq_ofUnpacked, parts]
    rcases k.eq_zero_or_pos with rfl | nonzero
    · have least : f = -1074 := fitted.normal.resolve_left (by norm_num)
      rw [finiteOrZero, dif_pos rfl, least]
      cases sign <;> rfl
    · rw [finiteOrZero, dif_neg nonzero.ne', unpack_pack_of_canonical ⟨fitted, most⟩]
      rfl
  · intro beyond
    have full : 2 ^ 52 ≤ k := fitted.normal.resolve_right (by omega)
    have nonzero : k ≠ 0 := by omega
    rw [ofFloat_eq_ofUnpacked, parts, finiteOrZero, dif_neg nonzero, unpack_pack_of_large beyond]
    rfl

theorem rounds_of_roundWithAccuracy {m : ℕ} {e : ℤ} {accuracy : Accuracy} {t : ℝ}
    (brackets : Brackets (ExtendedMantissa.ofMantissaAndAccuracy m accuracy) t) (fine : e ≤ aim m e)
    (packed : x.toModel =
      Float.Model.pack (UnpackedFloat.roundWithAccuracy .binary64 sign m e accuracy)) :
    Rounds .double x (unit sign * (t * 2 ^ e)) := by
  obtain ⟨k, f, fitted, size, parts⟩ := exists_fitted sign brackets fine
  rw [parts] at packed
  have above : 0 ≤ t * 2 ^ e := mul_nonneg brackets.nonneg (zpow_nonneg two_pos.le _)
  exact rounds_of_packed above fitted size packed

end Pack

/-! ### Operands -/

theorem rounds_zero {x : Float} {sign : Sign} (packed : x.toModel = Float.Model.pack (.zero sign)) :
    Rounds .double x 0 := by
  have zero : x.toModel.unpack = .zero sign := by
    rw [packed]
    exact UnpackedFloat.unpack_packedZero
  have parts : Binary.ofFloat x = .finite (isNegative sign) 0 (-1074) := by
    rw [ofFloat_eq_ofUnpacked, zero]
    rfl
  have finite : x.isFinite = true := isFinite_iff.mpr ⟨_, _, _, parts⟩
  have value : toReal x = 0 := by simp [toReal_of_ofFloat parts]
  exact value ▸ rounds_self finite

/-- A finite double is zero, or it has a sign and canonical parts. -/
theorem zero_or_canonical {x : Float} (finite : x.isFinite = true) :
    (∃ sign, x.toModel.unpack = .zero sign ∧ toReal x = 0) ∨
      ∃ sign m e positive, x.toModel.unpack = .finite sign m e positive ∧ Canonical m e ∧
        toReal x = unit sign * (m * 2 ^ e) := by
  have decoded := decodes_unpack (isNaN_eq_false_of_isFinite finite)
  have parts := ofFloat_eq_ofUnpacked x
  change x.toModel.unpack.isFinite = true at finite
  cases unpacked : x.toModel.unpack with
  | notANumber =>
      rw [unpacked] at finite
      cases finite
  | infinity sign =>
      rw [unpacked] at finite
      cases finite
  | zero sign =>
      rw [unpacked] at parts
      exact .inl ⟨sign, rfl, by simp [toReal_of_ofFloat parts]⟩
  | finite sign m e positive =>
      rw [unpacked] at decoded parts
      refine .inr ⟨sign, m, e, positive, rfl, decoded.1.canonical, ?_⟩
      rw [toReal_of_ofFloat parts, ite_isNegative]

/-- What was unpacked from a double is packed to it again. -/
theorem eq_of_toModel_eq {x y : Float} (same : x.toModel = Float.Model.pack y.toModel.unpack) : x = y := by
  apply ofFloat_injective
  rw [ofFloat_eq_ofUnpacked, ofFloat_eq_ofUnpacked, same]
  exact congrArg _ (unpack_pack_unpack y.toModel.toBits.toBitVec)

/-! ### Products -/

section Operations

variable {a b : Float}

theorem brackets_exact (m : ℕ) :
    Brackets (ExtendedMantissa.ofMantissaAndAccuracy m .exact) m := .exact m

/-- With all digits of a mantissa nothing has to be added. -/
theorem le_aim_of_digits {m : ℕ} {e : ℤ} (full : 2 ^ 52 ≤ m) : e ≤ aim m e := by
  have digits : 52 ≤ m.log2 := (Nat.le_log2 (by omega)).mpr full
  simp only [aim]
  omega

theorem le_aim_of_least {m : ℕ} {e : ℤ} (small : e ≤ -1074) : e ≤ aim m e :=
  small.trans (le_max_right _ _)

/-- A product of canonical mantissas has enough digits. -/
theorem fine_product {m n : ℕ} {e f : ℤ} (left : Canonical m e) (right : Canonical n f) (nonzero : 0 < m)
    (nonzeros : 0 < n) : e + f ≤ aim (m * n) (e + f) := by
  rcases left.normal with full | least
  · exact le_aim_of_digits (full.trans (Nat.le_mul_of_pos_right m nonzeros))
  · rcases right.normal with full | lowest
    · exact le_aim_of_digits (full.trans (Nat.le_mul_of_pos_left n nonzero))
    · exact le_aim_of_least (by omega)

theorem rounds_mul (left : a.isFinite = true) (right : b.isFinite = true) :
    Rounds .double (a * b) (toReal a * toReal b) := by
  have product : (a * b).toModel =
      Float.Model.pack (UnpackedFloat.mul .binary64 a.toModel.unpack b.toModel.unpack) := rfl
  rcases zero_or_canonical left with ⟨s, parts, value⟩ | ⟨s, m, e, nonzero, parts, canonical, value⟩
  · rw [value, zero_mul]
    rcases zero_or_canonical right with ⟨t, others, _⟩ | ⟨t, n, f, nonzeros, others, _⟩
    · rw [parts, others] at product
      exact rounds_zero product
    · rw [parts, others] at product
      exact rounds_zero product
  · rcases zero_or_canonical right with ⟨t, others, size⟩ | ⟨t, n, f, nonzeros, others, canonicals, size⟩
    · rw [parts, others] at product
      rw [size, mul_zero]
      exact rounds_zero product
    · rw [parts, others] at product
      have fine := fine_product canonical canonicals nonzero nonzeros
      have rounds := rounds_of_roundWithAccuracy (brackets_exact (m * n)) fine product
      have exact_value : toReal a * toReal b = unit (s * t) * ((m * n : ℕ) * 2 ^ (e + f)) := by
        rw [value, size, unit_mul, zpow_add₀ two_ne_zero]
        push_cast
        ring
      exact exact_value ▸ rounds

/-! ### Sums and differences -/

theorem shiftLeft_mul_zpow (m k : ℕ) (e : ℤ) : ((m <<< k : ℕ) : ℝ) * 2 ^ (e - k) = m * 2 ^ e := by
  rw [Nat.shiftLeft_eq, zpow_sub₀ two_ne_zero, zpow_natCast]
  push_cast
  field_simp

theorem log2_shiftLeft {m : ℕ} (nonzero : 0 < m) (k : ℕ) : (m <<< k).log2 = m.log2 + k := by
  rw [Nat.log2_eq_iff (by rw [Nat.shiftLeft_eq]; positivity), Nat.shiftLeft_eq]
  have lower := Nat.log2_self_le nonzero.ne'
  have upper := @Nat.lt_log2_self m
  constructor
  · rw [pow_add]
    exact Nat.mul_le_mul_right _ lower
  · rw [add_right_comm, pow_add]
    exact Nat.mul_lt_mul_of_pos_right upper (Nat.two_pow_pos k)

section Sums

variable {x : Float} {sign : Sign} {e : ℤ}

theorem rounds_of_round {m : ℕ} (nonzero : 0 < m)
    (packed : x.toModel = Float.Model.pack (UnpackedFloat.round .binary64 sign m e)) :
    Rounds .double x (unit sign * (m * 2 ^ e)) := by
  have packed : x.toModel = Float.Model.pack (UnpackedFloat.roundWithAccuracy .binary64 sign
      (m <<< (e - aim m e).toNat) (e - (e - aim m e).toNat) .exact) := packed
  have fine : e - (e - aim m e).toNat ≤ aim (m <<< (e - aim m e).toNat) (e - (e - aim m e).toNat) := by
    have same : aim (m <<< (e - aim m e).toNat) (e - (e - aim m e).toNat) = aim m e := by
      simp only [aim, log2_shiftLeft nonzero]
      congr 1
      push_cast
      ring
    rw [same]
    omega
  have rounds := rounds_of_roundWithAccuracy (brackets_exact _) fine packed
  rwa [shiftLeft_mul_zpow] at rounds

theorem rounds_of_normalize {m : ℤ} {zero : Sign}
    (packed : x.toModel = Float.Model.pack (UnpackedFloat.normalize .binary64 m e zero)) :
    Rounds .double x (m * 2 ^ e) := by
  unfold UnpackedFloat.normalize at packed
  split at packed
  · rename_i below
    have negative : m < 0 := Int.compare_eq_lt.mp below
    have rounds := rounds_of_round (by omega) packed
    have size : ((-m).toNat : ℝ) = -m := by exact_mod_cast Int.toNat_of_nonneg (by omega)
    rw [size, unit] at rounds
    convert rounds using 1
    ring
  · rename_i vanishes
    rw [Int.compare_eq_eq.mp vanishes, Int.cast_zero, zero_mul]
    exact rounds_zero packed
  · rename_i above
    have positive : 0 < m := Int.compare_eq_gt.mp above
    have rounds := rounds_of_round (by omega) packed
    have size : (m.toNat : ℝ) = m := by exact_mod_cast Int.toNat_of_nonneg positive.le
    rw [size, unit, one_mul] at rounds
    exact rounds

theorem cast_apply (s : Sign) (n : ℕ) : ((s.apply n : ℤ) : ℝ) = unit s * n := by
  cases s with
  | negative => simp [Sign.apply, unit]
  | positive => simp [Sign.apply, unit]

/-- A number at a smaller exponent. -/
theorem cast_apply_shiftLeft (s : Sign) (m : ℕ) {e f : ℤ} (le : f ≤ e) :
    ((s.apply (m <<< (e - f).toNat : ℕ) : ℤ) : ℝ) * 2 ^ f = unit s * (m * 2 ^ e) := by
  have lowered : e - ((e - f).toNat : ℤ) = f := by omega
  have moved := shiftLeft_mul_zpow m (e - f).toNat e
  rw [lowered] at moved
  rw [cast_apply, mul_assoc, moved]

end Sums

theorem rounds_add (left : a.isFinite = true) (right : b.isFinite = true) :
    Rounds .double (a + b) (toReal a + toReal b) := by
  have sum : (a + b).toModel =
      Float.Model.pack (UnpackedFloat.add .binary64 a.toModel.unpack b.toModel.unpack) := rfl
  rcases zero_or_canonical left with ⟨s, parts, value⟩ | ⟨s, m, e, nonzero, parts, _, value⟩
  · rw [value, zero_add]
    rcases zero_or_canonical right with ⟨t, others, size⟩ | ⟨t, n, f, nonzeros, others, _, _⟩
    · rw [parts, others] at sum
      rw [size]
      cases s <;> cases t <;> exact rounds_zero sum
    · have same : (a + b).toModel = Float.Model.pack b.toModel.unpack := by
        rw [sum, parts, others]
        rfl
      rw [eq_of_toModel_eq same]
      exact rounds_self right
  · rcases zero_or_canonical right with ⟨t, others, size⟩ | ⟨t, n, f, nonzeros, others, _, size⟩
    · have same : (a + b).toModel = Float.Model.pack a.toModel.unpack := by
        rw [sum, parts, others]
        rfl
      rw [size, add_zero, eq_of_toModel_eq same]
      exact rounds_self left
    · rw [parts, others] at sum
      have rounds := rounds_of_normalize sum
      rw [Int.cast_add, add_mul, cast_apply_shiftLeft s m (min_le_left e f),
        cast_apply_shiftLeft t n (min_le_right e f), ← value, ← size] at rounds
      exact rounds

theorem rounds_of_canonical {x : Float} {sign : Sign} {m : ℕ} {e : ℤ} {positive : 0 < m}
    (canonical : Canonical m e) (packed : x.toModel = Float.Model.pack (.finite sign m e positive)) :
    Rounds .double x (unit sign * (m * 2 ^ e)) := by
  have parts : UnpackedFloat.finite sign m e positive = finiteOrZero sign m e := by
    rw [finiteOrZero, dif_neg positive.ne']
  rw [parts] at packed
  exact rounds_of_packed (mul_zpow_nonneg m e) canonical.toFitted canonical.rounded.symm packed

theorem rounds_sub (left : a.isFinite = true) (right : b.isFinite = true) :
    Rounds .double (a - b) (toReal a - toReal b) := by
  have difference : (a - b).toModel =
      Float.Model.pack (UnpackedFloat.sub .binary64 a.toModel.unpack b.toModel.unpack) := rfl
  rcases zero_or_canonical left with ⟨s, parts, value⟩ | ⟨s, m, e, nonzero, parts, _, value⟩
  · rw [value, zero_sub]
    rcases zero_or_canonical right with ⟨t, others, size⟩ | ⟨t, n, f, nonzeros, others, canonical, size⟩
    · rw [parts, others] at difference
      rw [size, neg_zero]
      cases s <;> cases t <;> exact rounds_zero difference
    · rw [parts, others] at difference
      rw [size, ← neg_mul, ← unit_neg]
      exact rounds_of_canonical canonical difference
  · rcases zero_or_canonical right with ⟨t, others, size⟩ | ⟨t, n, f, nonzeros, others, _, size⟩
    · have same : (a - b).toModel = Float.Model.pack a.toModel.unpack := by
        rw [difference, parts, others]
        rfl
      rw [size, sub_zero, eq_of_toModel_eq same]
      exact rounds_self left
    · rw [parts, others] at difference
      have rounds := rounds_of_normalize difference
      rw [Int.cast_sub, sub_mul, cast_apply_shiftLeft s m (min_le_left e f),
        cast_apply_shiftLeft t n (min_le_right e f), ← value, ← size] at rounds
      exact rounds

/-! ### Quotients -/

theorem brackets_accuracyOfFraction (q : ℕ) {n d : ℕ} (less : n < d) :
    Brackets (ExtendedMantissa.ofMantissaAndAccuracy q (UnpackedFloat.accuracyOfFraction n d))
      (q + n / d) := by
  have positive : (0 : ℝ) < d := Nat.cast_pos.mpr (Nat.zero_lt_of_lt less)
  have whole : (n : ℝ) / d < 1 := (div_lt_one positive).mpr (Nat.cast_lt.mpr less)
  have start : (0 : ℝ) ≤ n / d := by positivity
  unfold UnpackedFloat.accuracyOfFraction
  split
  · rename_i vanishes
    rw [vanishes, Nat.cast_zero, zero_div, add_zero]
    exact brackets_exact q
  · rename_i nonzero
    have above : (0 : ℝ) < n / d := div_pos (Nat.cast_pos.mpr (Nat.pos_of_ne_zero nonzero)) positive
    rcases lt_trichotomy (2 * n) d with below | half | beyond
    · have near : (n : ℝ) / d < 1 / 2 := by
        rw [div_lt_iff₀ positive]
        have doubled : (2 * n : ℝ) < d := by exact_mod_cast below
        linarith
      rw [Nat.compare_eq_lt.mpr below]
      exact .of_lt_half (by linarith) (by linarith)
    · have middle : (n : ℝ) / d = 1 / 2 := by
        rw [div_eq_iff positive.ne']
        have doubled : (2 * n : ℝ) = d := by exact_mod_cast half
        linarith
      rw [Nat.compare_eq_eq.mpr half]
      exact .of_half (by rw [middle])
    · have far : (1 : ℝ) / 2 < n / d := by
        rw [lt_div_iff₀ positive]
        have doubled : (d : ℝ) < 2 * n := by exact_mod_cast beyond
        linarith
      rw [Nat.compare_eq_gt.mpr beyond]
      exact .of_half_lt (by linarith) (by linarith)

/-- The exponent at which a quotient has enough digits. -/
def quotientExponent (m n : ℕ) (e f : ℤ) : ℤ :=
  min (e - f) (max ((m.log2 + 1 + e) - (n.log2 + 1 + f) - 53) (-1074))

theorem fine_quotient {m n : ℕ} (nonzero : 0 < m) (nonzeros : 0 < n) (e f : ℤ) :
    quotientExponent m n e f ≤
      aim ((m <<< (e - f - quotientExponent m n e f).toNat) / n) (quotientExponent m n e f) := by
  have lower : 2 ^ m.log2 ≤ m := Nat.log2_self_le nonzero.ne'
  have upper : n < 2 ^ (n.log2 + 1) := Nat.lt_log2_self
  rcases le_or_gt (quotientExponent m n e f) (-1074) with least | coarse
  · exact le_aim_of_least least
  · apply le_aim_of_digits
    have shift : 53 + n.log2 ≤ m.log2 + (e - f - quotientExponent m n e f).toNat := by
      unfold quotientExponent at coarse ⊢
      omega
    rw [Nat.le_div_iff_mul_le nonzeros, Nat.shiftLeft_eq]
    calc 2 ^ 52 * n
      _ ≤ 2 ^ 52 * 2 ^ (n.log2 + 1) := Nat.mul_le_mul_left _ upper.le
      _ = 2 ^ (53 + n.log2) := by
        rw [← pow_add]
        congr 1
        omega
      _ ≤ 2 ^ (m.log2 + (e - f - quotientExponent m n e f).toNat) :=
        Nat.pow_le_pow_right Nat.two_pos shift
      _ = 2 ^ m.log2 * 2 ^ (e - f - quotientExponent m n e f).toNat := pow_add _ _ _
      _ ≤ m * 2 ^ (e - f - quotientExponent m n e f).toNat := Nat.mul_le_mul_right _ lower

/-- The whole quotient and the remainder make up the quotient. -/
theorem quotient_mul_zpow {m n : ℕ} (nonzero : 0 < n) {e f g : ℤ} (le : g ≤ e - f) :
    (((m <<< (e - f - g).toNat / n : ℕ) : ℝ) + (m <<< (e - f - g).toNat % n : ℕ) / n) * 2 ^ g =
      m * 2 ^ e / (n * 2 ^ f) := by
  have positive : (n : ℝ) ≠ 0 := (Nat.cast_pos.mpr nonzero).ne'
  have whole : ((m <<< (e - f - g).toNat / n : ℕ) : ℝ) + (m <<< (e - f - g).toNat % n : ℕ) / n =
      (m <<< (e - f - g).toNat : ℕ) / n := by
    have parts : (m <<< (e - f - g).toNat : ℕ) =
        n * (m <<< (e - f - g).toNat / n) + m <<< (e - f - g).toNat % n :=
      (Nat.div_add_mod _ _).symm
    rw [eq_div_iff positive, add_mul, div_mul_cancel₀ _ positive, mul_comm]
    exact_mod_cast parts.symm
  have lowered : e - f - ((e - f - g).toNat : ℤ) = g := by omega
  have moved := shiftLeft_mul_zpow m (e - f - g).toNat (e - f)
  rw [lowered] at moved
  rw [whole, div_mul_eq_mul_div, moved, zpow_sub₀ two_ne_zero]
  field_simp

theorem rounds_div (left : a.isFinite = true) (right : b.isFinite = true) (apart : toReal b ≠ 0) :
    Rounds .double (a / b) (toReal a / toReal b) := by
  have quotient : (a / b).toModel =
      Float.Model.pack (UnpackedFloat.div .binary64 a.toModel.unpack b.toModel.unpack) := rfl
  rcases zero_or_canonical right with ⟨t, others, size⟩ | ⟨t, n, f, nonzeros, others, _, size⟩
  · exact absurd size apart
  rcases zero_or_canonical left with ⟨s, parts, value⟩ | ⟨s, m, e, nonzero, parts, _, value⟩
  · rw [parts, others] at quotient
    rw [value, zero_div]
    exact rounds_zero quotient
  · rw [parts, others] at quotient
    have quotient : (a / b).toModel = Float.Model.pack (UnpackedFloat.roundWithAccuracy .binary64 (s / t)
        ((m <<< (e - f - quotientExponent m n e f).toNat) / n) (quotientExponent m n e f)
        (UnpackedFloat.accuracyOfFraction ((m <<< (e - f - quotientExponent m n e f).toNat) % n) n)) :=
      quotient
    have rounds := rounds_of_roundWithAccuracy
      (brackets_accuracyOfFraction _ (Nat.mod_lt _ nonzeros)) (fine_quotient nonzero nonzeros e f) quotient
    have lower : quotientExponent m n e f ≤ e - f := min_le_left _ _
    rw [quotient_mul_zpow nonzeros lower, unit_div] at rounds
    rw [value, size, mul_div_mul_comm]
    exact rounds

/-! ### Square roots -/

/-- The exponent at which a square root has enough digits. -/
def rootExponent (m : ℕ) (e : ℤ) : ℤ := min (e / 2) (max ((m.log2 + 1 + e + 1) / 2 - 53) (-1074))

/-- The integer root with what is left over. -/
theorem brackets_sqrt (n : ℕ) :
    Brackets (ExtendedMantissa.ofMantissaAndAccuracy n.sqrt
      (if n - n.sqrt * n.sqrt = 0 then .exact
        else .inexact (if n - n.sqrt * n.sqrt ≤ n.sqrt then .lt else .gt))) √n := by
  have lower : n.sqrt * n.sqrt ≤ n := Nat.sqrt_le n
  have upper : n < (n.sqrt + 1) * (n.sqrt + 1) := Nat.lt_succ_sqrt n
  generalize n.sqrt = r at *
  have below : (n : ℝ) < (r + 1) ^ 2 := by
    rw [sq]
    exact_mod_cast upper
  split
  · rename_i exact_root
    have square : (n : ℝ) = r * r := by
      have same : n = r * r := by omega
      exact_mod_cast same
    rw [square, Real.sqrt_mul_self (Nat.cast_nonneg r)]
    exact brackets_exact r
  · rename_i inexact
    have above : (r : ℝ) < √n := by
      have beyond : r * r < n := by omega
      rw [Real.lt_sqrt (Nat.cast_nonneg r), sq]
      exact_mod_cast beyond
    split
    · rename_i few
      have near : √n < (r : ℝ) + 1 / 2 := by
        have most : (n : ℝ) ≤ r * r + r := by
          have whole : n ≤ r * r + r := by omega
          exact_mod_cast whole
        rw [Real.sqrt_lt' (by positivity)]
        linarith
      exact .of_lt_half above near
    · rename_i many
      have far : (r : ℝ) + 1 / 2 < √n := by
        have least : (r : ℝ) * r + r + 1 ≤ n := by
          have whole : r * r + r + 1 ≤ n := by omega
          exact_mod_cast whole
        rw [Real.lt_sqrt (by positivity)]
        linarith
      exact .of_half_lt far ((Real.sqrt_lt' (by positivity)).mpr below)

theorem fine_root {m : ℕ} (nonzero : 0 < m) (e : ℤ) :
    rootExponent m e ≤ aim (m <<< (e - 2 * rootExponent m e).toNat).sqrt (rootExponent m e) := by
  have lower : 2 ^ m.log2 ≤ m := Nat.log2_self_le nonzero.ne'
  rcases le_or_gt (rootExponent m e) (-1074) with least | coarse
  · exact le_aim_of_least least
  · apply le_aim_of_digits
    have shift : 104 ≤ m.log2 + (e - 2 * rootExponent m e).toNat := by
      unfold rootExponent at coarse ⊢
      omega
    rw [Nat.le_sqrt, Nat.shiftLeft_eq]
    calc 2 ^ 52 * 2 ^ 52
      _ = 2 ^ 104 := by norm_num
      _ ≤ 2 ^ (m.log2 + (e - 2 * rootExponent m e).toNat) := Nat.pow_le_pow_right Nat.two_pos shift
      _ = 2 ^ m.log2 * 2 ^ (e - 2 * rootExponent m e).toNat := pow_add _ _ _
      _ ≤ m * 2 ^ (e - 2 * rootExponent m e).toNat := Nat.mul_le_mul_right _ lower

/-- The root of a number at an even exponent. -/
theorem sqrt_mul_zpow (m : ℕ) {e g : ℤ} (le : 2 * g ≤ e) :
    √((m <<< (e - 2 * g).toNat : ℕ) : ℝ) * 2 ^ g = √(m * 2 ^ e) := by
  have square : (2 : ℝ) ^ g = √(2 ^ (2 * g)) := by
    rw [mul_comm, zpow_mul, zpow_ofNat, Real.sqrt_sq (zpow_nonneg two_pos.le _)]
  have lowered : e - ((e - 2 * g).toNat : ℤ) = 2 * g := by omega
  have moved := shiftLeft_mul_zpow m (e - 2 * g).toNat e
  rw [lowered] at moved
  rw [square, ← Real.sqrt_mul (Nat.cast_nonneg _), moved]

theorem rounds_sqrt (finite : a.isFinite = true) (above : 0 ≤ toReal a) :
    Rounds .double a.sqrt √(toReal a) := by
  have root : a.sqrt.toModel =
      Float.Model.pack (UnpackedFloat.sqrt .binary64 a.toModel.unpack) := rfl
  rcases zero_or_canonical finite with ⟨s, parts, value⟩ | ⟨s, m, e, nonzero, parts, canonical, value⟩
  · rw [parts] at root
    rw [value, Real.sqrt_zero]
    exact rounds_zero root
  · have positive : s = .positive := by
      cases s with
      | positive => rfl
      | negative =>
          rw [value, unit] at above
          have size : (0 : ℝ) < m * 2 ^ e := mul_pos (Nat.cast_pos.mpr nonzero) (zpow_pos two_pos _)
          linarith
    cases positive
    rw [parts] at root
    have root : a.sqrt.toModel = Float.Model.pack (UnpackedFloat.roundWithAccuracy .binary64 .positive
        (m <<< (e - 2 * rootExponent m e).toNat).sqrt (rootExponent m e) _) := root
    have rounds := rounds_of_roundWithAccuracy (brackets_sqrt _) (fine_root nonzero e) root
    have lower : 2 * rootExponent m e ≤ e := by
      unfold rootExponent
      omega
    rw [sqrt_mul_zpow m lower, unit, one_mul] at rounds
    rw [value, unit, one_mul]
    exact rounds

end Operations

end WaveMedium.Number
