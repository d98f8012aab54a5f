/-
Module: WaveMedium.Proofs.Number.Count
Purpose: Natural numbers as doubles, and numbers that are one apart.
Main exports:
  Rounds.abs_toReal_sub_le, rounds_ofNat, neg_spec, rounded_le_one, sub_add_one_spec
-/
import Mathlib
import WaveMedium.Proofs.Number.Monotone

namespace WaveMedium.Number

open Float.Model (UnpackedFloat)
open Float.Model.UnpackedFloat (Sign)

/-- The error of the nearest double. -/
theorem Rounds.abs_toReal_sub_le {x : Float} {r : ℝ} (rounds : Rounds .double x r)
    (finite : x.isFinite = true) : |toReal x - r| ≤ |r| / 2 ^ 53 + 1 / 2 ^ 250 := by
  rw [rounds.toReal_eq finite]
  exact Format.abs_double_rounded_sub_le r

theorem abs_rounded_sub_le_of_le {r : ℝ} (small : |r| ≤ 7) : |Format.double.rounded r - r| ≤ 1 / 2 ^ 50 := by
  have error := Format.abs_double_rounded_sub_le r
  norm_num at error ⊢
  linarith

/-- What is at most a number that is not negative is rounded to hardly more. -/
theorem rounded_le_of_le {r s : ℝ} (above : 0 ≤ s) (le : r ≤ s) :
    Format.double.rounded r ≤ s + s / 2 ^ 53 + 1 / 2 ^ 250 := by
  have error := (abs_le.mp (Format.abs_double_rounded_sub_le s)).2
  rw [abs_of_nonneg above] at error
  have rounded : Format.double.rounded r ≤ Format.double.rounded s := Format.rounded_mono le
  linarith

/-! ### Natural numbers -/

theorem rounded_natCast {n : ℕ} (few : n ≤ 2 ^ 53) : Format.double.rounded n = n := by
  rcases few.lt_or_eq with less | rfl
  · simpa using Format.rounded_of_multiple less (by decide : Format.double.least ≤ 0)
  · have power : ((2 ^ 53 : ℕ) : ℝ) = 2 ^ (53 : ℤ) := by norm_num
    rw [power]
    exact Format.rounded_two_zpow (by decide)

theorem natCast_lt_of_le {n : ℕ} (few : n ≤ 2 ^ 53) : |(n : ℝ)| < 2 ^ (1024 : ℤ) := by
  have bound : (n : ℝ) ≤ 2 ^ (53 : ℤ) := by
    have cast : (n : ℝ) ≤ (2 ^ 53 : ℕ) := Nat.cast_le.mpr few
    exact cast.trans_eq (by norm_num)
  rw [Nat.abs_cast]
  exact bound.trans_lt (zpow_lt_zpow_right₀ one_lt_two (by decide))

theorem ofScientific_eq {n : ℕ} (nonzero : n ≠ 0) :
    UnpackedFloat.ofScientific .binary64 n 0 =
      UnpackedFloat.roundWithAccuracy .binary64 .positive (n <<< 53) (-53) .exact := by
  have notTiny : ¬ (0 : ℤ) < -(2 ^ Float.Model.Format.binary64.exponentBits + n.log2) := by
    have bits : (0 : ℤ) < 2 ^ Float.Model.Format.binary64.exponentBits := by decide
    omega
  have factors : n <<< 53 = n <<< 53 * 10 ^ (0 : ℤ).toNat := by simp
  rw [UnpackedFloat.ofScientific, dif_neg nonzero, if_neg (by decide), if_neg notTiny, if_pos le_rfl, factors]
  rfl

/-- A natural number is written as the double nearest to it. -/
theorem rounds_ofNat (n : ℕ) : Rounds .double (Float.ofNat n) n := by
  change Rounds .double (Float.ofScientific n false 0) n
  unfold Float.ofScientific
  split
  · -- A number that fits is converted as a word, and multiplied by one.
    rename_i small
    have few : n ≤ 2 ^ 53 := small.1.le
    have word : (UInt64.ofNat n).toNat = n := by
      rw [UInt64.toNat_ofNat']
      omega
    have packed : (UInt64.ofNat n).toFloat.toModel = Float.Model.pack
        (UnpackedFloat.normalize .binary64 (UInt64.ofNat n).toNat 0 .positive) := rfl
    have rounds := rounds_of_normalize packed
    rw [word, zpow_zero, mul_one, Int.cast_natCast] at rounds
    obtain ⟨finite, value⟩ := rounds.spec_of_rounded (rounded_natCast few) (natCast_lt_of_le few)
    have product := rounds_mul finite spans_one.finite
    rw [value, toReal_one, mul_one] at product
    exact product
  · rename_i large
    have nonzero : n ≠ 0 := by
      rintro rfl
      exact large ⟨by norm_num, by norm_num⟩
    have full : 2 ^ 52 ≤ n <<< 53 := by
      rw [Nat.shiftLeft_eq]
      exact (Nat.pow_le_pow_right Nat.two_pos (by norm_num)).trans
        (Nat.le_mul_of_pos_left _ (Nat.pos_of_ne_zero nonzero))
    have packed : Float.Model.ofScientific n (Int.ofNat 0) =
        Float.Model.pack (UnpackedFloat.ofScientific .binary64 n 0) := rfl
    rw [ofScientific_eq nonzero] at packed
    have rounds : Rounds .double ⟨Float.Model.ofScientific n (Int.ofNat 0)⟩ _ :=
      rounds_of_roundWithAccuracy (brackets_exact _) (le_aim_of_digits full) packed
    have value := shiftLeft_mul_zpow n 53 0
    rw [zpow_zero, mul_one, zero_sub, Nat.cast_ofNat] at value
    rw [value, unit, one_mul] at rounds
    exact rounds

/-! ### The number of the other sign -/

theorem neg_spec {x : Float} (finite : x.isFinite = true) :
    (-x).isFinite = true ∧ toReal (-x) = -toReal x := by
  have negated : (-x).toModel = Float.Model.pack x.toModel.unpack.neg := rfl
  have rounds : Rounds .double (-x) (-toReal x) := by
    rcases zero_or_canonical finite with ⟨s, parts, value⟩ | ⟨s, m, e, nonzero, parts, canonical, value⟩
    · rw [parts] at negated
      rw [value, neg_zero]
      exact rounds_zero negated
    · rw [parts] at negated
      rw [value, ← neg_mul, ← unit_neg]
      exact rounds_of_canonical canonical negated
  apply rounds.spec_of_rounded
  · rw [Format.rounded_neg, rounded_toReal finite]
  · rw [abs_neg]
    exact abs_toReal_lt finite

/-! ### Multiples of a spacing and a part of it -/

/-- Where the leading digit of a count of spacings is known, rounding acts on the count. -/
theorem rounded_mul_zpow {t : ℝ} {g : ℤ} (least : -1074 ≤ g) (lower : 2 ^ 52 ≤ t) (upper : t < 2 ^ 53) :
    Format.double.rounded (t * 2 ^ g) = halfEven t * 2 ^ g := by
  have unit : (0 : ℝ) < 2 ^ g := zpow_pos two_pos g
  have positive : 0 < t * 2 ^ g := mul_pos (by linarith) unit
  have low : 52 + g ≤ Int.log 2 (t * 2 ^ g) := by
    apply Format.le_log_of_le positive
    rw [two_zpow_add]
    exact mul_le_mul_of_nonneg_right (by exact_mod_cast lower) unit.le
  have high : Int.log 2 (t * 2 ^ g) < 53 + g := by
    apply Format.log_lt_of_lt positive
    rw [two_zpow_add]
    exact mul_lt_mul_of_pos_right (by exact_mod_cast upper) unit
  have grain : Format.double.grain (t * 2 ^ g) = g := by
    change max (Int.log 2 (t * 2 ^ g) + 1 - 53) (-1074) = g
    omega
  rw [Format.rounded_of_nonneg _ positive.le, Format.roundedSize, Format.count, Format.gap, grain,
    mul_div_cancel_right₀ _ unit.ne']

/-- What exceeds one by a small part of the spacing is rounded to one. -/
theorem rounded_le_one {r : ℝ} (near : r ≤ 1 + 1 / 2 ^ 60) : Format.double.rounded r ≤ 1 := by
  have count : halfEven (2 ^ 52 + 1 / 2 ^ 8) = 2 ^ 52 :=
    halfEven_of_lt_half (by norm_num) (by norm_num)
  calc Format.double.rounded r
    _ ≤ Format.double.rounded ((2 ^ 52 + 1 / 2 ^ 8) * 2 ^ (-52 : ℤ)) :=
      Format.rounded_mono (near.trans_eq (by norm_num))
    _ = halfEven (2 ^ 52 + 1 / 2 ^ 8) * 2 ^ (-52 : ℤ) :=
      rounded_mul_zpow (by decide) (by norm_num) (by norm_num)
    _ = 1 := by
      rw [count]
      norm_num

/-! ### One less and one more -/

section Successor

variable {k : ℕ} {e : ℤ} (canonical : Canonical k e)
include canonical

/-- In fractions one can be taken away without loss. -/
theorem Canonical.rounded_pred (fraction : e ≤ 0) (large : 1 ≤ (k : ℝ) * 2 ^ e) :
    Format.double.rounded (k * 2 ^ e - 1) = k * 2 ^ e - 1 := by
  obtain ⟨n, rfl⟩ : ∃ n : ℕ, e = -n := ⟨(-e).toNat, by omega⟩
  have unit : (2 : ℝ) ^ n * 2 ^ (-(n : ℤ)) = 1 := by
    rw [zpow_neg, zpow_natCast, mul_inv_cancel₀ (by positivity)]
  have many : 2 ^ n ≤ k := by
    have scaled : ((2 ^ n : ℕ) : ℝ) * 2 ^ (-(n : ℤ)) ≤ k * 2 ^ (-(n : ℤ)) := by
      push_cast
      rw [unit]
      exact large
    exact Nat.cast_le.mp (le_of_mul_le_mul_right scaled (zpow_pos two_pos _))
  have multiple : (k : ℝ) * 2 ^ (-(n : ℤ)) - 1 = (k - 2 ^ n : ℕ) * 2 ^ (-(n : ℤ)) := by
    rw [Nat.cast_sub many, sub_mul]
    push_cast
    rw [unit]
  rw [multiple]
  exact Format.rounded_of_multiple ((Nat.sub_le _ _).trans_lt canonical.small) canonical.least

/-- Where the spacing is two or more, one more is rounded back, unless the count of spacings is odd and one
less was rounded to the number before. -/
theorem Canonical.rounded_succ_or_pred_le (coarse : 1 ≤ e) :
    Format.double.rounded (k * 2 ^ e + 1) ≤ k * 2 ^ e ∨
      Format.double.rounded (k * 2 ^ e - 1) ≤ k * 2 ^ e - 1 := by
  have full : 2 ^ 52 ≤ k := canonical.normal.resolve_right (by omega)
  have lower : (2 : ℝ) ^ 52 ≤ k := by exact_mod_cast full
  have upper : (k : ℝ) + 1 ≤ 2 ^ 53 := by exact_mod_cast canonical.small
  rcases coarse.eq_or_lt with rfl | wide
  · rcases Nat.mod_two_eq_zero_or_one k with even | odd
    · left
      have half : (k : ℝ) * 2 ^ (1 : ℤ) + 1 = (k + 1 / 2) * 2 ^ (1 : ℤ) := by ring
      rw [half, rounded_mul_zpow (by decide) (by linarith) (by linarith), halfEven_of_half rfl, even, add_zero]
    · right
      obtain ⟨n, rfl⟩ : ∃ n, k = n + 1 := ⟨k - 1, by omega⟩
      have more : 2 ^ 52 ≤ n := by omega
      have least : (2 : ℝ) ^ 52 ≤ n := by exact_mod_cast more
      push_cast at upper ⊢
      have half : ((n : ℝ) + 1) * 2 ^ (1 : ℤ) - 1 = (n + 1 / 2) * 2 ^ (1 : ℤ) := by ring
      have even : n % 2 = 0 := by omega
      rw [half, rounded_mul_zpow (by decide) (by linarith) (by linarith), halfEven_of_half rfl, even, add_zero]
      linarith
  · left
    have part : (2 : ℝ) ^ (-e) ≤ 1 / 4 := by
      calc (2 : ℝ) ^ (-e)
        _ ≤ 2 ^ (-2 : ℤ) := two_zpow_le (by omega)
        _ = 1 / 4 := by norm_num
    have positive : (0 : ℝ) < 2 ^ (-e) := zpow_pos two_pos _
    have sum : (k : ℝ) * 2 ^ e + 1 = (k + 2 ^ (-e)) * 2 ^ e := by
      rw [add_mul, ← two_zpow_add, neg_add_cancel, zpow_zero]
    rw [sum, rounded_mul_zpow canonical.least (by linarith) (by linarith),
      halfEven_of_lt_half (by linarith) (by linarith)]

/-- Taking one from a double and adding it again gives no more than there was. -/
theorem Canonical.rounded_succ_rounded_pred_le (large : 1 ≤ (k : ℝ) * 2 ^ e) :
    Format.double.rounded (Format.double.rounded (k * 2 ^ e - 1) + 1) ≤ k * 2 ^ e := by
  have kept := canonical.rounded
  have before : Format.double.rounded (k * 2 ^ e - 1) ≤ k * 2 ^ e :=
    (Format.rounded_mono (by linarith)).trans_eq kept
  rcases le_or_gt e 0 with fraction | coarse
  · rw [canonical.rounded_pred fraction large, sub_add_cancel, kept]
  · rcases canonical.rounded_succ_or_pred_le coarse with back | less
    · exact (Format.rounded_mono (by linarith)).trans back
    · exact (Format.rounded_mono (by linarith)).trans_eq kept

end Successor

section Remainder

variable {a b : Float} (left : Spans a 0 64) (right : Spans b 0 64) (le : toReal b ≤ toReal a)
include left right le

theorem sub_spec_of_le :
    (a - b).isFinite = true ∧ 0 ≤ toReal (a - b) ∧ toReal (a - b) ≤ 2 ^ (64 : ℤ) ∧
      Format.double.rounded (toReal a - toReal b) = toReal (a - b) := by
  have start := sub_nonneg.mpr le
  have bound : toReal a - toReal b ≤ 2 ^ (64 : ℤ) := by linarith [left.upper, right.pos]
  have rounds := rounds_sub left.finite right.finite
  have finite := rounds.isFinite_of_abs_le (by decide) (by decide) ((abs_of_nonneg start).trans_le bound)
  exact ⟨finite, rounds.toReal_nonneg finite start, rounds.toReal_le finite (by decide) bound,
    (rounds.toReal_eq finite).symm⟩

/-- Of two numbers that are at least one, the difference and one more lie between one and the larger. -/
theorem sub_add_one_spec :
    (a - b + 1.0).isFinite = true ∧ 1 ≤ toReal (a - b + 1.0) ∧ toReal (a - b + 1.0) ≤ toReal a := by
  obtain ⟨finite, start, bound, difference⟩ := sub_spec_of_le left right le
  have rounds := rounds_add finite spans_one.finite
  rw [toReal_one] at rounds
  have size : |toReal (a - b) + 1| ≤ 2 ^ (65 : ℤ) := by
    rw [abs_of_nonneg (by linarith)]
    norm_num at bound ⊢
    linarith
  have sum := rounds.isFinite_of_abs_le (by decide) (by decide) size
  refine ⟨sum, ?_, ?_⟩
  · exact rounds.le_toReal (n := 0) sum (by decide) (by rw [zpow_zero]; linarith)
  · obtain ⟨negative, k, e, _, canonical, value, _⟩ := exists_parts_of_nonneg left.finite left.pos.le
    have one := right.lower
    have large := one.trans le
    rw [zpow_zero] at one large
    rw [value] at large difference
    rw [rounds.toReal_eq sum, value]
    refine le_trans (Format.rounded_mono ?_) (canonical.rounded_succ_rounded_pred_le large)
    rw [← difference]
    exact add_le_add_left (Format.rounded_mono (by linarith)) 1

/-- Taking one away and adding it again loses no more than two roundings do. -/
theorem le_sub_one_add_one (one : toReal b = 1) : toReal a * (1 - 1 / 2 ^ 51) ≤ toReal (a - b + 1.0) := by
  obtain ⟨finite, start, _, difference⟩ := sub_spec_of_le left right le
  obtain ⟨sum, _, most⟩ := sub_add_one_spec left right le
  have large := left.lower
  rw [zpow_zero] at large
  have rounds := rounds_add finite spans_one.finite
  rw [toReal_one] at rounds
  have first := Format.abs_double_rounded_sub_le (toReal a - toReal b)
  have second := rounds.abs_toReal_sub_le sum
  rw [difference, one, abs_of_nonneg (by linarith : (0 : ℝ) ≤ toReal a - 1)] at first
  rw [abs_of_nonneg (by linarith : (0 : ℝ) ≤ toReal (a - b) + 1)] at second
  have down := (abs_le.mp first).1
  have up := (abs_le.mp first).2
  have low := (abs_le.mp second).1
  norm_num at down up low ⊢
  linarith

end Remainder

end WaveMedium.Number
