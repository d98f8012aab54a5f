/-
Module: WaveMedium.Proofs.Number.Rounding
Purpose: Rounding of real numbers to a format, and what it keeps.
Main exports:
  halfEven, Format.grain, Format.rounded, Format.rounded_mono, Format.rounded_of_multiple,
  Format.rounded_rounded, Format.abs_rounded_sub_le, Format.rounded_nearest
-/
import Mathlib
import WaveMedium.Number.Binary

namespace WaveMedium.Number

/-! ### Rounding to a whole number -/

/-- The whole number nearest to a real number that is not negative.  A half goes to the even neighbour. -/
noncomputable def halfEven (t : ℝ) : ℕ :=
  if t - ⌊t⌋₊ < 1 / 2 then ⌊t⌋₊
  else if 1 / 2 < t - ⌊t⌋₊ then ⌊t⌋₊ + 1
  else ⌊t⌋₊ + ⌊t⌋₊ % 2

theorem halfEven_of_lt_half {m : ℕ} {t : ℝ} (lower : m ≤ t) (near : t < m + 1 / 2) :
    halfEven t = m := by
  have below : ⌊t⌋₊ = m := by
    rw [Nat.floor_eq_iff (m.cast_nonneg.trans lower)]
    exact ⟨lower, by linarith⟩
  rw [halfEven, below, if_pos (by linarith)]

theorem halfEven_of_half {m : ℕ} {t : ℝ} (half : t = m + 1 / 2) : halfEven t = m + m % 2 := by
  have below : ⌊t⌋₊ = m := by
    rw [half, Nat.floor_eq_iff (by positivity)]
    constructor <;> linarith
  rw [halfEven, below, if_neg (by linarith), if_neg (by linarith)]

theorem halfEven_of_half_lt {m : ℕ} {t : ℝ} (far : m + 1 / 2 < t) (upper : t < m + 1) :
    halfEven t = m + 1 := by
  have below : ⌊t⌋₊ = m := by
    rw [Nat.floor_eq_iff (by linarith [(Nat.cast_nonneg m : (0 : ℝ) ≤ m)])]
    exact ⟨by linarith, upper⟩
  rw [halfEven, below, if_neg (by linarith), if_pos (by linarith)]

@[simp] theorem halfEven_natCast (n : ℕ) : halfEven n = n :=
  halfEven_of_lt_half le_rfl (by linarith)

theorem floor_le_halfEven (t : ℝ) : ⌊t⌋₊ ≤ halfEven t := by
  unfold halfEven
  split
  · exact le_rfl
  · split
    · exact Nat.le_succ _
    · exact Nat.le_add_right _ _

theorem halfEven_le_floor_add_one (t : ℝ) : halfEven t ≤ ⌊t⌋₊ + 1 := by
  unfold halfEven
  split
  · exact Nat.le_succ _
  · split
    · exact le_rfl
    · exact Nat.add_le_add_left (Nat.le_of_lt_succ (Nat.mod_lt _ Nat.two_pos)) _

theorem halfEven_mono {s t : ℝ} (le : s ≤ t) : halfEven s ≤ halfEven t := by
  rcases (Nat.floor_le_floor le).lt_or_eq with apart | same
  · exact ((halfEven_le_floor_add_one s).trans apart).trans (floor_le_halfEven t)
  · -- Between the same two whole numbers the larger remainder decides.
    unfold halfEven
    rw [← same]
    have remainder : s - ⌊s⌋₊ ≤ t - ⌊s⌋₊ := by linarith
    split_ifs <;> first | omega | linarith

theorem halfEven_le_of_le {t : ℝ} {n : ℕ} (le : t ≤ n) : halfEven t ≤ n :=
  (halfEven_mono le).trans_eq (halfEven_natCast n)

theorem le_halfEven_of_le {t : ℝ} {n : ℕ} (le : (n : ℝ) ≤ t) : n ≤ halfEven t :=
  (halfEven_natCast n).symm.trans_le (halfEven_mono le)

theorem abs_halfEven_sub_le {t : ℝ} (above : 0 ≤ t) : |(halfEven t : ℝ) - t| ≤ 1 / 2 := by
  have lower := Nat.floor_le above
  have upper := Nat.lt_floor_add_one t
  unfold halfEven
  split_ifs with less more
  · rw [abs_le]
    constructor <;> linarith
  · rw [abs_le]
    push_cast
    constructor <;> linarith
  · have half : t - ⌊t⌋₊ = 1 / 2 := le_antisymm (not_lt.mp more) (not_lt.mp less)
    have step : ((⌊t⌋₊ % 2 : ℕ) : ℝ) ≤ 1 := by
      exact_mod_cast Nat.le_of_lt_succ (Nat.mod_lt _ Nat.two_pos)
    have start : (0 : ℝ) ≤ ((⌊t⌋₊ % 2 : ℕ) : ℝ) := Nat.cast_nonneg _
    rw [abs_le]
    rw [Nat.cast_add]
    constructor <;> linarith

/-- Rounding a quotient of natural numbers is rounding the real quotient. -/
theorem halfEven_div (n : ℕ) {d : ℕ} (positive : 0 < d) :
    halfEven ((n : ℝ) / d) = roundHalfEven n d := by
  have unit : (0 : ℝ) < d := Nat.cast_pos.mpr positive
  have parts : (n : ℝ) = d * (n / d : ℕ) + (n % d : ℕ) := by exact_mod_cast (Nat.div_add_mod n d).symm
  have quotient : (n : ℝ) / d = (n / d : ℕ) + (n % d : ℕ) / d := by
    rw [parts]
    field_simp
  have start : (0 : ℝ) ≤ (n % d : ℕ) / d := by positivity
  have rest : ((n % d : ℕ) : ℝ) < d := Nat.cast_lt.mpr (Nat.mod_lt n positive)
  unfold roundHalfEven
  dsimp only
  split
  · rename_i near
    have half : ((n % d : ℕ) : ℝ) / d < 1 / 2 := by
      rw [div_lt_iff₀ unit]
      have doubled : (2 * (n % d : ℕ) : ℝ) < d := by exact_mod_cast near
      linarith
    exact halfEven_of_lt_half (by linarith) (by linarith)
  · rename_i notNear
    split
    · rename_i far
      have half : (1 : ℝ) / 2 < (n % d : ℕ) / d := by
        rw [lt_div_iff₀ unit]
        have doubled : (d : ℝ) < 2 * (n % d : ℕ) := by exact_mod_cast far
        linarith
      have whole : ((n % d : ℕ) : ℝ) / d < 1 := (div_lt_one unit).mpr rest
      exact halfEven_of_half_lt (by linarith) (by linarith)
    · rename_i notFar
      have half : ((n % d : ℕ) : ℝ) / d = 1 / 2 := by
        rw [div_eq_iff unit.ne']
        have doubled : (2 * (n % d : ℕ) : ℝ) = d := by
          exact_mod_cast (Nat.le_antisymm (Nat.not_lt.mp notFar) (Nat.not_lt.mp notNear))
        linarith
      rw [halfEven_of_half (by rw [quotient, half])]
      split <;> omega

/-! ### Rounding to a format -/

instance : NeZero Format.double.digits := ⟨by decide⟩

instance : NeZero Format.single.digits := ⟨by decide⟩

/-! ### Rounding to a format -/

/-- The real number that a decoded number stands for.  What is no finite number stands for zero. -/
noncomputable def Binary.toReal : Binary → ℝ
  | .finite negative mantissa exponent =>
      if negative then -(mantissa * 2 ^ exponent) else mantissa * 2 ^ exponent
  | _ => 0

namespace Binary

variable (negative : Bool) (m : ℕ) (q : ℤ)

theorem toReal_finite :
    (finite negative m q).toReal = if negative then -((m : ℝ) * 2 ^ q) else m * 2 ^ q := rfl

theorem abs_toReal_finite : |(finite negative m q).toReal| = m * 2 ^ q := by
  cases negative with
  | false => simp [toReal_finite]
  | true => simp [toReal_finite]

end Binary

namespace Format

variable (format : Format)

/-- The exponent of the spacing of the format's numbers near a positive real number. -/
noncomputable def grain (r : ℝ) : ℤ := max (Int.log 2 r + 1 - format.digits) format.least

/-- The spacing of the format's numbers near a positive real number. -/
noncomputable def gap (r : ℝ) : ℝ := 2 ^ format.grain r

/-- How many spacings are nearest to a real number that is not negative. -/
noncomputable def count (r : ℝ) : ℕ := halfEven (r / format.gap r)

/-- The whole multiple of the local spacing nearest to a real number that is not negative. -/
noncomputable def roundedSize (r : ℝ) : ℝ := format.count r * format.gap r

/-- The number nearest to a real number among those with the format's digits and least exponent.  Large
numbers are not cut off. -/
noncomputable def rounded (r : ℝ) : ℝ :=
  if 0 ≤ r then format.roundedSize r else -format.roundedSize (-r)

theorem gap_pos (r : ℝ) : 0 < format.gap r := zpow_pos two_pos _

theorem roundedSize_nonneg (r : ℝ) : 0 ≤ format.roundedSize r :=
  mul_nonneg (Nat.cast_nonneg _) (format.gap_pos r).le

@[simp] theorem roundedSize_zero : format.roundedSize 0 = 0 := by
  have vanishes : halfEven 0 = 0 := by simpa using halfEven_natCast 0
  rw [roundedSize, count, zero_div, vanishes, Nat.cast_zero, zero_mul]

theorem rounded_of_nonneg {r : ℝ} (above : 0 ≤ r) : format.rounded r = format.roundedSize r :=
  if_pos above

@[simp] theorem rounded_zero : format.rounded 0 = 0 := by
  rw [rounded_of_nonneg format le_rfl, roundedSize_zero]

@[simp] theorem rounded_neg (r : ℝ) : format.rounded (-r) = -format.rounded r := by
  rcases lt_trichotomy r 0 with below | rfl | above
  · rw [rounded, rounded, if_pos (by linarith), if_neg (by linarith), neg_neg]
  · simp
  · rw [rounded, rounded, if_neg (by linarith), if_pos above.le, neg_neg]

theorem rounded_nonneg {r : ℝ} (above : 0 ≤ r) : 0 ≤ format.rounded r := by
  rw [rounded_of_nonneg format above]
  exact format.roundedSize_nonneg r

theorem abs_rounded (r : ℝ) : |format.rounded r| = format.rounded |r| := by
  rcases le_total 0 r with above | below
  · rw [abs_of_nonneg above, abs_of_nonneg (format.rounded_nonneg above)]
  · rw [abs_of_nonpos below, rounded_neg, ← abs_neg, ← rounded_neg,
      abs_of_nonneg (format.rounded_nonneg (neg_nonneg.mpr below))]

/-! ### Multiples of the spacing -/

section Multiples

variable {format} {r : ℝ} {k : ℕ} {g : ℤ}

/-- A multiple of a coarser spacing is a multiple of a finer one. -/
theorem exists_multiple (coarse : format.grain r ≤ g) (k : ℕ) :
    ∃ n : ℕ, (k : ℝ) * 2 ^ g = n * format.gap r := by
  refine ⟨k * 2 ^ (g - format.grain r).toNat, ?_⟩
  have split : g = ((g - format.grain r).toNat : ℤ) + format.grain r := by omega
  conv_lhs => rw [split, zpow_add₀ two_ne_zero, zpow_natCast]
  rw [gap]
  push_cast
  ring

theorem roundedSize_le_of_le (coarse : format.grain r ≤ g) (le : r ≤ k * 2 ^ g) :
    format.roundedSize r ≤ k * 2 ^ g := by
  obtain ⟨n, multiple⟩ := exists_multiple coarse k
  rw [multiple] at le ⊢
  have few := halfEven_le_of_le ((div_le_iff₀ (format.gap_pos r)).mpr le)
  exact mul_le_mul_of_nonneg_right (Nat.cast_le.mpr few) (format.gap_pos r).le

theorem le_roundedSize_of_le (coarse : format.grain r ≤ g) (le : (k : ℝ) * 2 ^ g ≤ r) :
    (k : ℝ) * 2 ^ g ≤ format.roundedSize r := by
  obtain ⟨n, multiple⟩ := exists_multiple coarse k
  rw [multiple] at le ⊢
  have many := le_halfEven_of_le ((le_div_iff₀ (format.gap_pos r)).mpr le)
  exact mul_le_mul_of_nonneg_right (Nat.cast_le.mpr many) (format.gap_pos r).le

theorem log_lt_of_lt (positive : 0 < r) {n : ℤ} (small : r < 2 ^ n) : Int.log 2 r < n :=
  (Int.lt_zpow_iff_log_lt Nat.one_lt_two positive).mp (by exact_mod_cast small)

theorem le_log_of_le (positive : 0 < r) {n : ℤ} (large : 2 ^ n ≤ r) : n ≤ Int.log 2 r :=
  (Int.zpow_le_iff_le_log Nat.one_lt_two positive).mp (by exact_mod_cast large)

theorem zpow_log_le (positive : 0 < r) : (2 : ℝ) ^ Int.log 2 r ≤ r := by
  exact_mod_cast Int.zpow_log_le_self Nat.one_lt_two positive

theorem lt_zpow_log (r : ℝ) : r < 2 ^ (Int.log 2 r + 1) := by
  exact_mod_cast Int.lt_zpow_succ_log_self Nat.one_lt_two r

theorem grain_mono {s : ℝ} (positive : 0 < r) (le : r ≤ s) : format.grain r ≤ format.grain s := by
  have logs : Int.log 2 r ≤ Int.log 2 s := Int.log_mono_right positive le
  unfold grain
  omega

/-- Below a power of two the spacing is that many digits finer. -/
theorem grain_le_of_lt (positive : 0 < r) {n : ℤ} (small : r < 2 ^ n) (least : format.least ≤ g)
    (digits : n - format.digits ≤ g) : format.grain r ≤ g := by
  have top := log_lt_of_lt positive small
  unfold grain
  omega

end Multiples

section Sound

variable {format} [NeZero format.digits] {r s : ℝ}

theorem roundedSize_mono (above : 0 ≤ r) (le : r ≤ s) : format.roundedSize r ≤ format.roundedSize s := by
  rcases above.eq_or_lt with rfl | positive
  · rw [roundedSize_zero]
    exact format.roundedSize_nonneg s
  have larger : 0 < s := positive.trans_le le
  have spacings : format.grain r ≤ format.grain s := grain_mono positive le
  rcases spacings.lt_or_eq with apart | same
  · -- Between numbers of different spacing there is a power of two, and both are rounded towards it.
    have coarse : format.grain s = Int.log 2 s + 1 - format.digits := by
      unfold grain at apart ⊢
      omega
    have digits : 0 < format.digits := NeZero.pos _
    have power : ∀ g : ℤ, g ≤ Int.log 2 s → ∃ k : ℕ, (2 : ℝ) ^ Int.log 2 s = k * 2 ^ g := by
      intro g below
      refine ⟨2 ^ (Int.log 2 s - g).toNat, ?_⟩
      have split : Int.log 2 s = ((Int.log 2 s - g).toNat : ℤ) + g := by omega
      conv_lhs => rw [split, zpow_add₀ two_ne_zero, zpow_natCast]
      push_cast
      rfl
    have logs : Int.log 2 r + 1 ≤ Int.log 2 s := by
      unfold grain at apart coarse
      omega
    obtain ⟨k, finer⟩ := power (format.grain r) (by omega)
    obtain ⟨n, coarser⟩ := power (format.grain s) (by omega)
    have lower : r ≤ 2 ^ Int.log 2 s :=
      (lt_zpow_log r).le.trans (zpow_le_zpow_right₀ one_le_two logs)
    calc format.roundedSize r
      _ ≤ k * 2 ^ format.grain r := roundedSize_le_of_le le_rfl (finer ▸ lower)
      _ = n * 2 ^ format.grain s := finer.symm.trans coarser
      _ ≤ format.roundedSize s := le_roundedSize_of_le le_rfl (coarser ▸ zpow_log_le larger)
  · have gaps : format.gap r = format.gap s := by rw [gap, gap, same]
    unfold roundedSize count
    rw [gaps]
    apply mul_le_mul_of_nonneg_right _ (format.gap_pos s).le
    exact Nat.cast_le.mpr (halfEven_mono (div_le_div_of_nonneg_right le (format.gap_pos s).le))

theorem rounded_mono : Monotone format.rounded := by
  intro r s le
  rcases le_total 0 r with above | below
  · rw [rounded_of_nonneg format above, rounded_of_nonneg format (above.trans le)]
    exact roundedSize_mono above le
  · rcases le_total 0 s with other | under
    · have negative : format.rounded r ≤ 0 := by
        rw [← neg_neg r, rounded_neg, neg_nonpos]
        exact format.rounded_nonneg (neg_nonneg.mpr below)
      exact negative.trans (format.rounded_nonneg other)
    · have turned : format.roundedSize (-s) ≤ format.roundedSize (-r) :=
        roundedSize_mono (neg_nonneg.mpr under) (neg_le_neg le)
      rw [← rounded_of_nonneg format (neg_nonneg.mpr below),
        ← rounded_of_nonneg format (neg_nonneg.mpr under), rounded_neg, rounded_neg] at turned
      exact neg_le_neg_iff.mp turned

end Sound

/-! ### Numbers of the format -/

/-- A multiple of a spacing of the format by a number with as many digits. -/
theorem rounded_of_multiple {format : Format} {k : ℕ} {g : ℤ} (small : k < 2 ^ format.digits)
    (least : format.least ≤ g) : format.rounded (k * 2 ^ g) = k * 2 ^ g := by
  rcases k.eq_zero_or_pos with rfl | nonzero
  · simp
  have positive : (0 : ℝ) < k * 2 ^ g := mul_pos (Nat.cast_pos.mpr nonzero) (zpow_pos two_pos _)
  have bound : (k : ℝ) * 2 ^ g < 2 ^ (format.digits + g) := by
    rw [zpow_add₀ two_ne_zero, zpow_natCast]
    exact mul_lt_mul_of_pos_right (by exact_mod_cast small) (zpow_pos two_pos _)
  have coarse : format.grain (k * 2 ^ g) ≤ g := grain_le_of_lt positive bound least (by omega)
  rw [rounded_of_nonneg format positive.le]
  exact le_antisymm (roundedSize_le_of_le coarse le_rfl) (le_roundedSize_of_le coarse le_rfl)

/-- Powers of two that are not too small are numbers of the format. -/
theorem rounded_two_zpow {format : Format} [NeZero format.digits] {n : ℤ}
    (least : format.least ≤ n) : format.rounded (2 ^ n) = 2 ^ n := by
  have one : 1 < 2 ^ format.digits := Nat.one_lt_two_pow (NeZero.ne _)
  simpa using rounded_of_multiple one least

theorem abs_rounded_le_two_zpow {format : Format} [NeZero format.digits] {n : ℤ} {r : ℝ}
    (least : format.least ≤ n) (le : |r| ≤ 2 ^ n) : |format.rounded r| ≤ 2 ^ n := by
  rw [abs_rounded, ← rounded_two_zpow least]
  exact rounded_mono le

/-- Rounding moves a number by half a spacing at most. -/
theorem abs_rounded_sub_le_gap {r : ℝ} : |format.rounded r - r| ≤ format.gap |r| / 2 := by
  have size : ∀ s : ℝ, 0 ≤ s → |format.roundedSize s - s| ≤ format.gap s / 2 := by
    intro s above
    have unit := format.gap_pos s
    have near := abs_halfEven_sub_le (div_nonneg above unit.le)
    have scaled : format.roundedSize s - s =
        (halfEven (s / format.gap s) - s / format.gap s) * format.gap s := by
      rw [roundedSize, count, sub_mul, div_mul_cancel₀ _ unit.ne']
    rw [scaled, abs_mul, abs_of_pos unit]
    linarith [mul_le_mul_of_nonneg_right near unit.le]
  rcases le_total 0 r with above | below
  · rw [rounded_of_nonneg format above, abs_of_nonneg above]
    exact size r above
  · have other := size (-r) (neg_nonneg.mpr below)
    rw [← rounded_of_nonneg format (neg_nonneg.mpr below), rounded_neg] at other
    rw [abs_of_nonpos below, ← abs_neg]
    convert other using 2
    ring

theorem gap_le {r : ℝ} (positive : 0 < r) :
    format.gap r ≤ r * 2 ^ (1 - (format.digits : ℤ)) + 2 ^ format.least := by
  have relative : (2 : ℝ) ^ (Int.log 2 r + 1 - format.digits) ≤ r * 2 ^ (1 - (format.digits : ℤ)) := by
    rw [show Int.log 2 r + 1 - format.digits = Int.log 2 r + (1 - format.digits) by ring,
      zpow_add₀ two_ne_zero]
    exact mul_le_mul_of_nonneg_right (zpow_log_le positive) (zpow_nonneg two_pos.le _)
  have first : (0 : ℝ) ≤ r * 2 ^ (1 - (format.digits : ℤ)) := by positivity
  have second : (0 : ℝ) ≤ 2 ^ format.least := by positivity
  unfold gap grain
  rcases le_total (Int.log 2 r + 1 - format.digits) format.least with tiny | large
  · rw [max_eq_right tiny]
    linarith
  · rw [max_eq_left large]
    linarith

/-- The error of rounding: a unit in the first digit that is lost, or half the least number. -/
theorem abs_rounded_sub_le (r : ℝ) :
    |format.rounded r - r| ≤ |r| * 2 ^ (-(format.digits : ℤ)) + 2 ^ (format.least - 1) := by
  rcases eq_or_ne r 0 with rfl | nonzero
  · rw [rounded_zero, sub_zero, abs_zero, zero_mul, zero_add]
    positivity
  have near := format.abs_rounded_sub_le_gap (r := r)
  have spacing := format.gap_le (abs_pos.mpr nonzero)
  have half : (2 : ℝ) ^ (1 - (format.digits : ℤ)) = 2 * 2 ^ (-(format.digits : ℤ)) := by
    rw [sub_eq_add_neg, zpow_add₀ two_ne_zero, zpow_one]
  have least : (2 : ℝ) ^ format.least = 2 * 2 ^ (format.least - 1) := by
    rw [← zpow_one_add₀ two_ne_zero]
    congr 1
    ring
  rw [half, least] at spacing
  linarith

/-- The error of rounding to a double.  The bound for tiny numbers is generous. -/
theorem abs_double_rounded_sub_le (r : ℝ) :
    |Format.double.rounded r - r| ≤ |r| / 2 ^ 53 + 1 / 2 ^ 250 := by
  have near : |Format.double.rounded r - r| ≤ |r| * 2 ^ (-53 : ℤ) + 2 ^ (-1075 : ℤ) :=
    Format.double.abs_rounded_sub_le r
  have digits : (2 : ℝ) ^ (-53 : ℤ) = 1 / 2 ^ 53 := by norm_num
  have tiny : (2 : ℝ) ^ (-1075 : ℤ) ≤ 1 / 2 ^ 250 := by
    rw [zpow_neg, one_div]
    exact inv_anti₀ (by positivity) (pow_le_pow_right₀ one_le_two (by norm_num))
  rw [digits, mul_one_div] at near
  exact near.trans (add_le_add le_rfl tiny)

/-! ### Counting spacings -/

/-- A count has no more digits than the format, except that it can be the next power of two. -/
theorem count_le (r : ℝ) : format.count r ≤ 2 ^ format.digits := by
  apply halfEven_le_of_le
  rw [div_le_iff₀ (format.gap_pos r)]
  have digits : Int.log 2 r + 1 ≤ format.digits + format.grain r := by
    unfold grain
    omega
  calc r
    _ ≤ 2 ^ (Int.log 2 r + 1) := (lt_zpow_log r).le
    _ ≤ 2 ^ (format.digits + format.grain r) := zpow_le_zpow_right₀ one_le_two digits
    _ = (2 ^ format.digits : ℕ) * format.gap r := by
      rw [zpow_add₀ two_ne_zero, zpow_natCast, gap]
      push_cast
      rfl

/-- Rounding twice is rounding once. -/
@[simp] theorem rounded_rounded [NeZero format.digits] (r : ℝ) :
    format.rounded (format.rounded r) = format.rounded r := by
  have size : ∀ s : ℝ, format.rounded (format.roundedSize s) = format.roundedSize s := by
    intro s
    have least : format.least ≤ format.grain s := le_max_right _ _
    rcases (format.count_le s).lt_or_eq with few | carried
    · exact rounded_of_multiple few least
    · -- The count has one digit too many, and the product is a power of two.
      have power : format.roundedSize s = 2 ^ (format.digits + format.grain s) := by
        rw [roundedSize, carried, gap, zpow_add₀ two_ne_zero, zpow_natCast]
        push_cast
        rfl
      rw [power, rounded_two_zpow (by omega)]
  rcases le_total 0 r with above | below
  · rw [rounded_of_nonneg format above]
    exact size r
  · have turned := size (-r)
    rw [← rounded_of_nonneg format (neg_nonneg.mpr below), rounded_neg, rounded_neg] at turned
    exact neg_inj.mp turned

/-- A count has all the digits of the format unless the spacing is the least. -/
theorem le_count [NeZero format.digits] {r : ℝ} (positive : 0 < r)
    (coarse : format.least < format.grain r) : 2 ^ (format.digits - 1) ≤ format.count r := by
  apply le_halfEven_of_le
  rw [le_div_iff₀ (format.gap_pos r)]
  have digits : 0 < format.digits := NeZero.pos _
  have top : Int.log 2 r = (format.digits - 1 : ℕ) + format.grain r := by
    unfold grain at coarse ⊢
    omega
  calc ((2 ^ (format.digits - 1) : ℕ) : ℝ) * format.gap r
    _ = 2 ^ Int.log 2 r := by
      rw [top, zpow_add₀ two_ne_zero, zpow_natCast, gap]
      push_cast
      rfl
    _ ≤ r := zpow_log_le positive

section Binary

variable {format} {m : ℕ} {q : ℤ}

theorem log_mul_two_zpow (nonzero : 0 < m) : Int.log 2 ((m : ℝ) * 2 ^ q) = m.log2 + q := by
  have positive : (0 : ℝ) < m * 2 ^ q := mul_pos (Nat.cast_pos.mpr nonzero) (zpow_pos two_pos _)
  have lower : ((2 ^ m.log2 : ℕ) : ℝ) ≤ m := Nat.cast_le.mpr (Nat.log2_self_le nonzero.ne')
  have upper : (m : ℝ) < (2 ^ (m.log2 + 1) : ℕ) := Nat.cast_lt.mpr Nat.lt_log2_self
  push_cast at lower upper
  apply le_antisymm
  · apply Int.lt_add_one_iff.mp
    apply log_lt_of_lt positive
    rw [show (m.log2 : ℤ) + q + 1 = (m.log2 + 1 : ℕ) + q by push_cast; ring, zpow_add₀ two_ne_zero,
      zpow_natCast]
    exact mul_lt_mul_of_pos_right upper (zpow_pos two_pos _)
  · apply le_log_of_le positive
    rw [zpow_add₀ two_ne_zero, zpow_natCast]
    exact mul_le_mul_of_nonneg_right lower (zpow_nonneg two_pos.le _)

theorem grain_mul_two_zpow (nonzero : 0 < m) : format.grain (m * 2 ^ q) = format.spacing m q := by
  rw [grain, log_mul_two_zpow nonzero, spacing, if_neg nonzero.ne', add_comm (m.log2 : ℤ) q]

/-- The nearest multiple of the spacing, found with natural numbers alone. -/
theorem nearest_eq (nonzero : 0 < m) :
    format.nearest m q = (format.count (m * 2 ^ q), format.grain (m * 2 ^ q)) := by
  have grain : format.grain (m * 2 ^ q) = format.spacing m q := grain_mul_two_zpow nonzero
  unfold nearest
  dsimp only
  rw [count, gap, grain]
  generalize format.spacing m q = g
  split
  · have split : q = ((q - g).toNat : ℤ) + g := by omega
    have whole : (m : ℝ) * 2 ^ q / 2 ^ g = (m * 2 ^ (q - g).toNat : ℕ) := by
      conv_lhs => rw [split]
      rw [zpow_add₀ two_ne_zero, ← mul_assoc,
        mul_div_cancel_right₀ _ (zpow_ne_zero _ two_ne_zero), zpow_natCast]
      push_cast
      rfl
    rw [whole, halfEven_natCast]
    rfl
  · have split : g = ((g - q).toNat : ℤ) + q := by omega
    have quotient : (m : ℝ) * 2 ^ q / 2 ^ g = m / (2 ^ (g - q).toNat : ℕ) := by
      conv_lhs => rw [split]
      rw [zpow_add₀ two_ne_zero, mul_div_mul_right _ _ (zpow_ne_zero _ two_ne_zero), zpow_natCast]
      push_cast
      rfl
    rw [quotient, halfEven_div m (Nat.two_pow_pos _)]
    rfl

@[simp] theorem nearest_zero (q : ℤ) : format.nearest 0 q = (0, format.least) := by
  have grain : format.spacing 0 q = format.least := if_pos rfl
  unfold nearest
  dsimp only
  rw [grain]
  split
  · rw [Nat.zero_mul]
  · simp [roundHalfEven]

theorem rounded_nearest (m : ℕ) (q : ℤ) :
    format.rounded (m * 2 ^ q) = (format.nearest m q).1 * 2 ^ (format.nearest m q).2 := by
  rcases m.eq_zero_or_pos with rfl | nonzero
  · simp
  · have positive : (0 : ℝ) < m * 2 ^ q := mul_pos (Nat.cast_pos.mpr nonzero) (zpow_pos two_pos _)
    rw [nearest_eq nonzero, rounded_of_nonneg format positive.le]
    rfl

/-- Rounding a decoded number rounds its mantissa and exponent, and keeps its sign. -/
theorem rounded_toReal_finite (negative : Bool) (m : ℕ) (q : ℤ) :
    format.rounded (Binary.finite negative m q).toReal =
      (Binary.finite negative (format.nearest m q).1 (format.nearest m q).2).toReal := by
  have near : format.rounded (m * 2 ^ q) = _ := rounded_nearest m q
  cases negative with
  | false => simpa [Binary.toReal_finite] using near
  | true => simpa [Binary.toReal_finite] using near

theorem least_le_nearest (m : ℕ) (q : ℤ) : format.least ≤ (format.nearest m q).2 := by
  rcases m.eq_zero_or_pos with rfl | nonzero
  · simp
  · rw [nearest_eq nonzero]
    exact le_max_right _ _

theorem nearest_le (m : ℕ) (q : ℤ) : (format.nearest m q).1 ≤ 2 ^ format.digits := by
  rcases m.eq_zero_or_pos with rfl | nonzero
  · simp
  · rw [nearest_eq nonzero]
    exact format.count_le _

theorem le_nearest [NeZero format.digits] (m : ℕ) (q : ℤ)
    (coarse : format.least < (format.nearest m q).2) :
    2 ^ (format.digits - 1) ≤ (format.nearest m q).1 := by
  rcases m.eq_zero_or_pos with rfl | nonzero
  · simp at coarse
  · rw [nearest_eq nonzero] at coarse ⊢
    exact format.le_count (mul_pos (Nat.cast_pos.mpr nonzero) (zpow_pos two_pos _)) coarse

end Binary

end Format

end WaveMedium.Number
