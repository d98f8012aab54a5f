/-
Module: WaveMedium.Proofs.Number.Size
Purpose: Powers of two between which the results of arithmetic lie.
Main exports:
  Within, Spans, Rounds.within, Rounds.spans, Within.mul, Spans.div, Spans.sqrt, le_abs_add,
  least_le_sub
-/
import Mathlib
import WaveMedium.Proofs.Number.Sign

namespace WaveMedium.Number

/-- A finite double whose size is at most a power of two. -/
structure Within (x : Float) (n : ℤ) : Prop where
  finite : x.isFinite = true
  bound : |toReal x| ≤ 2 ^ n

/-- A positive double between two powers of two. -/
structure Spans (x : Float) (l u : ℤ) : Prop where
  finite : x.isFinite = true
  lower : 2 ^ l ≤ toReal x
  upper : toReal x ≤ 2 ^ u

theorem two_zpow_add (m n : ℤ) : (2 : ℝ) ^ (m + n) = 2 ^ m * 2 ^ n := zpow_add₀ two_ne_zero m n

theorem two_zpow_sub (m n : ℤ) : (2 : ℝ) ^ (m - n) = 2 ^ m / 2 ^ n := zpow_sub₀ two_ne_zero m n

theorem two_zpow_le {m n : ℤ} (le : m ≤ n) : (2 : ℝ) ^ m ≤ 2 ^ n := zpow_le_zpow_right₀ one_le_two le

namespace Spans

variable {x : Float} {l u : ℤ}

theorem pos (spans : Spans x l u) : 0 < toReal x := (zpow_pos two_pos l).trans_le spans.lower

theorem within (spans : Spans x l u) : Within x u where
  finite := spans.finite
  bound := (abs_of_pos spans.pos).trans_le spans.upper

theorem mono {k v : ℤ} (spans : Spans x l u) (less : k ≤ l) (more : u ≤ v) : Spans x k v where
  finite := spans.finite
  lower := (two_zpow_le less).trans spans.lower
  upper := spans.upper.trans (two_zpow_le more)

end Spans

theorem Within.mono {x : Float} {m n : ℤ} (within : Within x m) (le : m ≤ n) : Within x n where
  finite := within.finite
  bound := within.bound.trans (two_zpow_le le)

/-! ### Rounding -/

section Rounds

variable {format : Format} [NeZero format.digits] {x : Float} {r : ℝ}

/-- The double nearest to a number is not larger than a power of two if the number is not. -/
theorem Rounds.within {n : ℤ} (rounds : Rounds format x r) (least : format.least ≤ n)
    (most : n < format.top) (bound : |r| ≤ 2 ^ n) : Within x n := by
  have finite := rounds.isFinite_of_abs_le least most bound
  refine ⟨finite, ?_⟩
  rw [rounds.toReal_eq finite]
  exact Format.abs_rounded_le_two_zpow least bound

theorem Rounds.toReal_le {n : ℤ} (rounds : Rounds format x r) (finite : x.isFinite = true)
    (least : format.least ≤ n) (upper : r ≤ 2 ^ n) : toReal x ≤ 2 ^ n := by
  rw [rounds.toReal_eq finite, ← Format.rounded_two_zpow least]
  exact Format.rounded_mono upper

theorem Rounds.le_toReal {n : ℤ} (rounds : Rounds format x r) (finite : x.isFinite = true)
    (least : format.least ≤ n) (lower : 2 ^ n ≤ r) : 2 ^ n ≤ toReal x := by
  rw [rounds.toReal_eq finite, ← Format.rounded_two_zpow least]
  exact Format.rounded_mono lower

theorem Rounds.le_abs_toReal {n : ℤ} (rounds : Rounds format x r) (finite : x.isFinite = true)
    (least : format.least ≤ n) (lower : 2 ^ n ≤ |r|) : 2 ^ n ≤ |toReal x| := by
  rw [rounds.toReal_eq finite, Format.abs_rounded, ← Format.rounded_two_zpow least]
  exact Format.rounded_mono lower

omit [NeZero format.digits] in
theorem Rounds.toReal_nonneg (rounds : Rounds format x r) (finite : x.isFinite = true) (above : 0 ≤ r) :
    0 ≤ toReal x := by
  rw [rounds.toReal_eq finite]
  exact format.rounded_nonneg above

/-- The double nearest to a number lies between two powers of two if the number does. -/
theorem Rounds.spans {l u : ℤ} (rounds : Rounds format x r) (least : format.least ≤ l)
    (most : u < format.top) (lower : 2 ^ l ≤ r) (upper : r ≤ 2 ^ u) : Spans x l u := by
  have positive : 0 < r := (zpow_pos two_pos l).trans_le lower
  have order : l ≤ u := (zpow_le_zpow_iff_right₀ one_lt_two).mp (lower.trans upper)
  have within := rounds.within (least.trans order) most ((abs_of_pos positive).trans_le upper)
  exact ⟨within.finite, rounds.le_toReal within.finite least lower, (le_abs_self _).trans within.bound⟩

end Rounds

/-! ### Arithmetic -/

section Arithmetic

variable {a b : Float} {m n l u k v : ℤ}

theorem Within.mul (left : Within a m) (right : Within b n) (least : -1074 ≤ m + n)
    (most : m + n < 1024) : Within (a * b) (m + n) := by
  apply (rounds_mul left.finite right.finite).within least most
  rw [abs_mul, two_zpow_add]
  exact mul_le_mul left.bound right.bound (abs_nonneg _) (zpow_nonneg two_pos.le _)

theorem Within.add (left : Within a n) (right : Within b n) (least : -1074 ≤ n + 1)
    (most : n + 1 < 1024) : Within (a + b) (n + 1) := by
  apply (rounds_add left.finite right.finite).within least most
  rw [two_zpow_add, zpow_one]
  linarith [abs_add_le (toReal a) (toReal b), left.bound, right.bound]

theorem Within.sub (left : Within a n) (right : Within b n) (least : -1074 ≤ n + 1)
    (most : n + 1 < 1024) : Within (a - b) (n + 1) := by
  apply (rounds_sub left.finite right.finite).within least most
  rw [two_zpow_add, zpow_one]
  linarith [abs_sub (toReal a) (toReal b), left.bound, right.bound]

theorem Within.div (left : Within a m) (right : Spans b l u) (least : -1074 ≤ m - l)
    (most : m - l < 1024) : Within (a / b) (m - l) := by
  apply (rounds_div left.finite right.finite right.pos.ne').within least most
  rw [abs_div, abs_of_pos right.pos, two_zpow_sub]
  exact div_le_div₀ (zpow_nonneg two_pos.le _) left.bound (zpow_pos two_pos _) right.lower

theorem Spans.mul (left : Spans a l u) (right : Spans b k v) (least : -1074 ≤ l + k)
    (most : u + v < 1024) : Spans (a * b) (l + k) (u + v) := by
  apply (rounds_mul left.finite right.finite).spans least most
  · rw [two_zpow_add]
    exact mul_le_mul left.lower right.lower (zpow_nonneg two_pos.le _) left.pos.le
  · rw [two_zpow_add]
    exact mul_le_mul left.upper right.upper right.pos.le (zpow_nonneg two_pos.le _)

theorem Spans.div (left : Spans a l u) (right : Spans b k v) (least : -1074 ≤ l - v)
    (most : u - k < 1024) : Spans (a / b) (l - v) (u - k) := by
  apply (rounds_div left.finite right.finite right.pos.ne').spans least most
  · rw [two_zpow_sub]
    exact div_le_div₀ left.pos.le left.lower right.pos right.upper
  · rw [two_zpow_sub]
    exact div_le_div₀ (zpow_nonneg two_pos.le _) left.upper (zpow_pos two_pos _) right.lower

theorem Spans.sqrt (spans : Spans a (2 * l) (2 * u)) (least : -1074 ≤ l) (most : u < 1024) :
    Spans a.sqrt l u := by
  have square : ∀ n : ℤ, (2 : ℝ) ^ (2 * n) = (2 ^ n) ^ 2 := by
    intro n
    rw [mul_comm, zpow_mul, zpow_ofNat]
  apply (rounds_sqrt spans.finite spans.pos.le).spans least most
  · apply Real.le_sqrt_of_sq_le
    rw [← square]
    exact spans.lower
  · rw [Real.sqrt_le_left (zpow_nonneg two_pos.le _), ← square]
    exact spans.upper

end Arithmetic

/-! ### Literals -/

/-- A literal lies between the powers of two between which its mantissa does. -/
theorem spans_of_parts {x : Float} {m a b : ℕ} {e : ℤ} (parts : Binary.ofFloat x = .finite false m e)
    (lower : 2 ^ a ≤ m) (upper : m ≤ 2 ^ b) : Spans x (a + e) (b + e) := by
  obtain ⟨finite, value⟩ := spec_of_parts parts
  refine ⟨finite, ?_, ?_⟩
  · rw [value, two_zpow_add, zpow_natCast]
    exact mul_le_mul_of_nonneg_right (by exact_mod_cast lower) (zpow_nonneg two_pos.le _)
  · rw [value, two_zpow_add, zpow_natCast]
    exact mul_le_mul_of_nonneg_right (by exact_mod_cast upper) (zpow_nonneg two_pos.le _)

theorem spans_one : Spans 1.0 0 0 := by
  have parts : Binary.ofFloat 1.0 = .finite false 4503599627370496 (-52) := by decide
  exact spans_of_parts parts (a := 52) (b := 52) (by norm_num) (by norm_num)

theorem spans_two : Spans 2.0 1 1 := by
  have parts : Binary.ofFloat 2.0 = .finite false 4503599627370496 (-51) := by decide
  exact spans_of_parts parts (a := 52) (b := 52) (by norm_num) (by norm_num)

theorem spans_three : Spans 3.0 1 2 := by
  have parts : Binary.ofFloat 3.0 = .finite false 6755399441055744 (-51) := by decide
  exact spans_of_parts parts (a := 52) (b := 53) (by norm_num) (by norm_num)

theorem spans_four : Spans 4.0 2 2 := by
  have parts : Binary.ofFloat 4.0 = .finite false 4503599627370496 (-50) := by decide
  exact spans_of_parts parts (a := 52) (b := 52) (by norm_num) (by norm_num)

theorem toReal_one : toReal 1.0 = 1 :=
  le_antisymm (by simpa using spans_one.upper) (by simpa using spans_one.lower)

/-- What lies between two literals is between their powers of two. -/
theorem spans_of_le_of_le {lo x hi : Float} {l k v u : ℤ} (left : Spans lo l k) (right : Spans hi v u)
    (lower : lo ≤ x) (upper : x ≤ hi) : Spans x l u := by
  have finite := isFinite_of_le_of_le lower upper left.finite right.finite
  rw [le_iff_toReal_le left.finite finite] at lower
  rw [le_iff_toReal_le finite right.finite] at upper
  exact ⟨finite, left.lower.trans lower, upper.trans right.upper⟩

/-! ### Sums that are not rounded away -/

/-- A double is a whole multiple of every power of two up to that of its last digit. -/
theorem exists_multiple_of_parts {x : Float} {negative : Bool} {m : ℕ} {e g : ℤ}
    (parts : Binary.ofFloat x = .finite negative m e) (le : g ≤ e) :
    ∃ z : ℤ, toReal x = z * 2 ^ g := by
  obtain ⟨k, rfl⟩ : ∃ k : ℕ, e = k + g := ⟨(e - g).toNat, by omega⟩
  have whole : (m : ℝ) * 2 ^ ((k : ℤ) + g) = (m * 2 ^ k : ℕ) * 2 ^ g := by
    rw [two_zpow_add, zpow_natCast]
    push_cast
    ring
  rw [toReal_of_ofFloat parts, whole]
  cases negative with
  | false => exact ⟨(m * 2 ^ k : ℕ), by simp⟩
  | true => exact ⟨-(m * 2 ^ k : ℕ), by simp⟩

/-- A double is a whole multiple of a unit in its last digit. -/
theorem exists_multiple_of_le {x : Float} (finite : x.isFinite = true) {n : ℤ}
    (large : 2 ^ n ≤ |toReal x|) : ∃ z : ℤ, toReal x = z * 2 ^ (n - 52) := by
  obtain ⟨negative, m, e, parts, canonical, _⟩ := exists_canonical finite
  have value := toReal_of_ofFloat parts
  have size : |toReal x| = m * 2 ^ e := by
    rw [value]
    cases negative with
    | false => simp
    | true => simp
  have digits : n < (53 : ℕ) + e := by
    apply (zpow_lt_zpow_iff_right₀ (one_lt_two : (1 : ℝ) < 2)).mp
    rw [two_zpow_add, zpow_natCast]
    calc (2 : ℝ) ^ n
      _ ≤ m * 2 ^ e := size ▸ large
      _ < 2 ^ 53 * 2 ^ e := by
        apply mul_lt_mul_of_pos_right _ (zpow_pos two_pos _)
        exact_mod_cast canonical.small
  exact exists_multiple_of_parts parts (by omega)

/-- A multiple of a power of two is not smaller than it, unless it is zero. -/
theorem two_zpow_le_abs {z : ℤ} (nonzero : z ≠ 0) (n : ℤ) : (2 : ℝ) ^ n ≤ |(z : ℝ) * 2 ^ n| := by
  have unit : (0 : ℝ) < 2 ^ n := zpow_pos two_pos n
  have count : (1 : ℝ) ≤ |(z : ℝ)| := by exact_mod_cast Int.one_le_abs nonzero
  rw [abs_mul, abs_of_pos unit]
  exact le_mul_of_one_le_left unit.le count

/-- A sum of doubles of which one is not too small is zero, or not too small either: both are multiples of
one unit. -/
theorem le_abs_add {a b : Float} (left : a.isFinite = true) (right : b.isFinite = true) {n : ℤ}
    (large : 2 ^ n ≤ |toReal b|) (nonzero : toReal a + toReal b ≠ 0) :
    2 ^ (n - 53) ≤ |toReal a + toReal b| := by
  have halves : (2 : ℝ) ^ n = 2 ^ (n - 1) * 2 := by
    rw [← zpow_add_one₀ two_ne_zero, sub_add_cancel]
  rcases lt_or_ge |toReal a| (2 ^ (n - 1)) with small | other
  · have apart := abs_sub_abs_le_abs_sub (toReal b) (-toReal a)
    rw [abs_neg, sub_neg_eq_add, add_comm (toReal b)] at apart
    have finer : (2 : ℝ) ^ (n - 53) ≤ 2 ^ (n - 1) := two_zpow_le (by omega)
    linarith
  · have coarse : (2 : ℝ) ^ (n - 1) ≤ |toReal b| := (two_zpow_le (by omega)).trans large
    obtain ⟨y, first⟩ := exists_multiple_of_le left other
    obtain ⟨z, second⟩ := exists_multiple_of_le right coarse
    have unit : n - 1 - 52 = n - 53 := by ring
    rw [unit] at first second
    have sum : toReal a + toReal b = (y + z : ℤ) * 2 ^ (n - 53) := by
      rw [first, second]
      push_cast
      ring
    have count : y + z ≠ 0 := by
      intro vanishes
      rw [sum, vanishes] at nonzero
      simp at nonzero
    rw [sum]
    exact two_zpow_le_abs count _

/-- Doubles that differ do so by at least the least positive double, of which both are multiples. -/
theorem least_le_sub {a b : Float} (left : a.isFinite = true) (right : b.isFinite = true)
    (less : toReal a < toReal b) : (2 : ℝ) ^ (-1074 : ℤ) ≤ toReal b - toReal a := by
  obtain ⟨_, _, _, first, lower, _⟩ := exists_canonical left
  obtain ⟨_, _, _, second, upper, _⟩ := exists_canonical right
  obtain ⟨y, lesser⟩ := exists_multiple_of_parts first lower.least
  obtain ⟨z, greater⟩ := exists_multiple_of_parts second upper.least
  have difference : toReal b - toReal a = (z - y : ℤ) * 2 ^ (-1074 : ℤ) := by
    rw [lesser, greater]
    push_cast
    ring
  have apart : z - y ≠ 0 := by
    intro vanishes
    rw [vanishes, Int.cast_zero, zero_mul] at difference
    linarith
  calc (2 : ℝ) ^ (-1074 : ℤ)
    _ ≤ |((z - y : ℤ) : ℝ) * 2 ^ (-1074 : ℤ)| := two_zpow_le_abs apart _
    _ = toReal b - toReal a := by rw [← difference, abs_of_pos (by linarith)]

end WaveMedium.Number
