/-
Module: WaveMedium.Proofs.Tensor.Reduction
Purpose: The largest and the smallest value do not depend on how the values are split to find them.
Main exports:
  Keyed, Utmost, Greatest, Least, Splitting, Splitting.extreme_reduce, Tensor.greatest_largest,
  Tensor.least_smallest, Splitting.extrema_of_reduce
-/
import WaveMedium.Proofs.Number.Monotone
import WaveMedium.Proofs.Tensor.Extrema

namespace WaveMedium

open Number

/-! ### Numbers in an order -/

/-- An order in which numbers stand as their keys do, and in which only zeros share a place. -/
structure Keyed (before : Float → Float → Prop) (key : Float → Int) : Prop where
  ranked : ∀ a b, a.isNaN = false → b.isNaN = false → (before a b ↔ key a ≤ key b)
  sameNumber : ∀ a b, key a = key b → SameNumber a b

theorem keyed_le : Keyed (· ≤ ·) place where
  ranked _ _ left right := le_iff_place left right
  sameNumber _ _ same := sameNumber_of_place_eq same

theorem keyed_ge : Keyed (· ≥ ·) fun x => -place x where
  ranked _ _ left right := (le_iff_place right left).trans Int.neg_le_neg_iff.symm
  sameNumber _ _ same := sameNumber_of_place_eq (Int.neg_inj.mp same)

/-- A choice takes the later one in an order if it takes the one with the larger key. -/
theorem Keyed.selects_iff {before : Float → Float → Prop} {key : Float → Int}
    {choose : Float → Float → Float} (keyed : Keyed before key) :
    Selects before choose ↔ Selects (fun a b => key a ≤ key b) choose := by
  -- Both ask for numbers only, and the choice between two numbers is one of them.
  have chosen : ∀ a b, a.isNaN = false → b.isNaN = false →
      choose a b = a ∨ choose a b = b → (choose a b).isNaN = false := by
    intro a b number other taken
    rcases taken with same | same
    · rw [same]
      exact number
    · rw [same]
      exact other
  constructor
  · intro selects
    refine ⟨selects.skips, selects.takes, fun a b number other => ?_, fun a b number other => ?_⟩
    · have taken := chosen a b number other (selects.takes a b number other)
      exact (keyed.ranked a _ number taken).mp (selects.left a b number other)
    · have taken := chosen a b number other (selects.takes a b number other)
      exact (keyed.ranked b _ other taken).mp (selects.right a b number other)
  · intro selects
    refine ⟨selects.skips, selects.takes, fun a b number other => ?_, fun a b number other => ?_⟩
    · have taken := chosen a b number other (selects.takes a b number other)
      exact (keyed.ranked a _ number taken).mpr (selects.left a b number other)
    · have taken := chosen a b number other (selects.takes a b number other)
      exact (keyed.ranked b _ other taken).mpr (selects.right a b number other)

theorem selects_larger : Selects (· ≤ ·) larger := keyed_le.selects_iff.mpr prefers_larger.selects

theorem selects_smaller : Selects (· ≥ ·) smaller := keyed_ge.selects_iff.mpr prefers_smaller.selects

/-! ### The last number -/

/-- The last number among the values, or the bottom of the order if there are no numbers among them. -/
structure Utmost (before : Float → Float → Prop) (bottom : Float) (values : List Float)
    (result : Float) : Prop where
  found : result ∈ values ∧ result.isNaN = false ∨
    result = bottom ∧ ∀ value ∈ values, value.isNaN = true
  bound : ∀ value ∈ values, value.isNaN = false → before value result

/-- The greatest number among the values, or negative infinity if there are none. -/
abbrev Greatest : List Float → Float → Prop := Utmost (· ≤ ·) negativeInfinity

/-- The least number among the values, or positive infinity if there are none. -/
abbrev Least : List Float → Float → Prop := Utmost (· ≥ ·) positiveInfinity

section Utmost

variable {before : Float → Float → Prop} {key : Float → Int} {bottom : Float} {values : List Float}

/-- An extreme is the start, where all numbers come after it, only if the start is among the values itself or
there are no numbers. -/
theorem Extreme.utmost {result : Float} (keyed : Keyed before key)
    (least : ∀ value, value.isNaN = false → key bottom ≤ key value) (nonzero : ¬ IsZero bottom)
    (extreme : Extreme key bottom values result) : Utmost before bottom values result where
  found := by
    rcases extreme.found with rfl | member
    · by_cases empty : ∀ value ∈ values, value.isNaN = true
      · exact .inr ⟨rfl, empty⟩
      · push Not at empty
        obtain ⟨value, member, defined⟩ := empty
        have number : value.isNaN = false := Bool.eq_false_iff.mpr defined
        have together := Int.le_antisymm (least value number) (extreme.bound value member number)
        have same := (keyed.sameNumber _ _ together).eq_of_not_isZero nonzero
        exact .inl ⟨same ▸ member, extreme.number⟩
    · exact .inl ⟨member, extreme.number⟩
  bound value member number :=
    (keyed.ranked value result number extreme.number).mpr (extreme.bound value member number)

/-- The last number is unique up to the sign of a zero. -/
theorem Utmost.sameNumber {a b : Float} (keyed : Keyed before key)
    (one : Utmost before bottom values a) (two : Utmost before bottom values b) : SameNumber a b := by
  rcases one.found with ⟨member, number⟩ | ⟨rfl, empty⟩
  · rcases two.found with ⟨other, defined⟩ | ⟨_, empty⟩
    · have up := (keyed.ranked a b number defined).mp (two.bound a member number)
      have down := (keyed.ranked b a defined number).mp (one.bound b other defined)
      exact keyed.sameNumber a b (Int.le_antisymm up down)
    · rw [empty a member] at number
      cases number
  · rcases two.found with ⟨other, defined⟩ | ⟨rfl, _⟩
    · rw [empty b other] at defined
      cases defined
    · exact .inl rfl

/-- What is found depends only on which values there are. -/
theorem Utmost.congr {result : Float} {others : List Float}
    (same : ∀ value, value ∈ values ↔ value ∈ others) (utmost : Utmost before bottom values result) :
    Utmost before bottom others result where
  found := by
    simpa only [same] using utmost.found
  bound value member := utmost.bound value ((same value).mpr member)

end Utmost

theorem greatest_of_extreme {values : List Float} {result : Float}
    (extreme : Extreme place negativeInfinity values result) : Greatest values result := by
  refine extreme.utmost keyed_le (fun value number => ?_) (by decide)
  rw [negativeInfinity_spec.1]
  exact (place_bounds number).1

theorem least_of_extreme {values : List Float} {result : Float}
    (extreme : Extreme (fun x => -place x) positiveInfinity values result) : Least values result := by
  refine extreme.utmost keyed_ge (fun value number => ?_) (by decide)
  rw [positiveInfinity_spec.1]
  exact Int.neg_le_neg (place_bounds number).2

namespace Tensor

theorem greatest_largest (t : Tensor Float) : Greatest t.cells.toList t.largest :=
  greatest_of_extreme t.extreme_largest

theorem least_smallest (t : Tensor Float) : Least t.cells.toList t.smallest :=
  least_of_extreme t.extreme_smallest

end Tensor

/-! ### Runs of values and their joins -/

/-- A way to split values into runs whose results are joined two at a time. -/
inductive Splitting where
  | run (values : List Float)
  | join (left right : Splitting)

namespace Splitting

variable {choose : Float → Float → Float}

/-- The values that are split, in their order. -/
def values : Splitting → List Float
  | .run values => values
  | .join left right => left.values ++ right.values

/-- Choose among the values of each run, beginning with the same start, and then among the results. -/
def reduce (choose : Float → Float → Float) (start : Float) : Splitting → Float
  | .run values => values.foldl choose start
  | .join left right => choose (left.reduce choose start) (right.reduce choose start)

/-- However the values are split, an extreme of all of them is found. -/
theorem extreme_reduce {key : Float → Int} {start : Float}
    (selects : Selects (fun a b => key a ≤ key b) choose) (number : start.isNaN = false)
    (split : Splitting) : Extreme key start split.values (split.reduce choose start) := by
  induction split with
  | run values => exact selects.extreme_foldl number values
  | join left right first second =>
      exact selects.extreme_append first second.number second.found second.bound

theorem greatest_reduce (selects : Selects (· ≤ ·) choose) (split : Splitting) :
    Greatest split.values (split.reduce choose negativeInfinity) :=
  greatest_of_extreme
    (split.extreme_reduce (keyed_le.selects_iff.mp selects) negativeInfinity_spec.2.1)

theorem least_reduce (selects : Selects (· ≥ ·) choose) (split : Splitting) :
    Least split.values (split.reduce choose positiveInfinity) :=
  least_of_extreme
    (split.extreme_reduce (keyed_ge.selects_iff.mp selects) positiveInfinity_spec.2.1)

/-- However values are split into runs that are reduced from an infinity and joined two at a time, and
whichever of two zeros is taken where they meet, the result is the greatest or the least number among the
values, or that infinity if there are no numbers.  So it is, up to the sign of a zero, what a box of these
values has for its largest or smallest value, where the values are taken one after the other. -/
theorem extrema_of_reduce (split : Splitting) :
    (∀ choose, Selects (· ≤ ·) choose →
      Greatest split.values (split.reduce choose negativeInfinity) ∧
      ∀ t : Tensor Float, t.cells.toList = split.values →
        SameNumber (split.reduce choose negativeInfinity) t.largest) ∧
    (∀ choose, Selects (· ≥ ·) choose →
      Least split.values (split.reduce choose positiveInfinity) ∧
      ∀ t : Tensor Float, t.cells.toList = split.values →
        SameNumber (split.reduce choose positiveInfinity) t.smallest) ∧
    Selects (· ≤ ·) larger ∧ Selects (· ≥ ·) smaller := by
  refine ⟨fun choose selects => ?_, fun choose selects => ?_, selects_larger, selects_smaller⟩
  · have greatest := split.greatest_reduce selects
    refine ⟨greatest, fun t same => ?_⟩
    exact greatest.sameNumber keyed_le (same ▸ t.greatest_largest)
  · have least := split.least_reduce selects
    refine ⟨least, fun t same => ?_⟩
    exact least.sameNumber keyed_ge (same ▸ t.least_smallest)

/-- A run without numbers, an empty run, and zeros of both signs in different runs. -/
def scattered : Splitting :=
  .join (.join (.run [0.0 / 0.0]) (.run [])) (.join (.run [-0.0]) (.run [0.0 / 0.0, 0.0, -1.0]))

theorem extrema_of_reduce_scattered :
    (Selects (· ≤ ·) larger ∧ Selects (· ≥ ·) smaller) ∧
    SameNumber (scattered.reduce larger negativeInfinity)
      (⟨[5], #v[0.0 / 0.0, -0.0, 0.0 / 0.0, 0.0, -1.0]⟩ : Tensor Float).largest ∧
    Least scattered.values (scattered.reduce smaller positiveInfinity) ∧
    scattered.reduce smaller positiveInfinity = -1.0 ∧
    (Splitting.join (.run [0.0 / 0.0]) (.run [])).reduce larger negativeInfinity =
      negativeInfinity := by
  obtain ⟨largest, smallest, greater, less⟩ := extrema_of_reduce scattered
  have extreme := ((extrema_of_reduce (.join (.run [0.0 / 0.0]) (.run []))).1 larger greater).1
  refine ⟨⟨greater, less⟩, (largest larger greater).2 _ (by decide), (smallest smaller less).1,
    by decide, ?_⟩
  rcases extreme.found with ⟨member, number⟩ | ⟨same, _⟩
  · rw [List.mem_singleton.mp member] at number
    exact absurd number (by decide)
  · exact same

end Splitting

end WaveMedium
