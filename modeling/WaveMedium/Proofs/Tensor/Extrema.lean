/-
Module: WaveMedium.Proofs.Tensor.Extrema
Purpose: The largest and the smallest value of a box depend only on which values the box has.
Main exports:
  Prefers, Selects, Extreme, Selects.extreme_foldl, Tensor.sameNumber_largest,
  Tensor.sameNumber_smallest
-/
import WaveMedium.Proofs.Number.Order
import WaveMedium.Tensor.Extrema

namespace WaveMedium

open Number

/-! ### Choosing between two doubles -/

/-- A choice that keeps the first number unless the second has a larger key. -/
def Prefers (choose : Float → Float → Float) (key : Float → Int) : Prop :=
  ∀ a b, a.isNaN = false →
    choose a b = if b.isNaN = false ∧ key a < key b then b else a

theorem prefers_larger : Prefers larger place := by
  intro a b number
  have same : a < b ↔ b.isNaN = false ∧ place a < place b := by
    constructor
    · intro less
      have other := (isNaN_eq_false_of_lt less).2
      exact ⟨other, (lt_iff_place number other).mp less⟩
    · rintro ⟨other, less⟩
      exact (lt_iff_place number other).mpr less
  simp only [larger, number, Bool.false_or, decide_eq_true_eq, same]

theorem prefers_smaller : Prefers smaller fun x => -place x := by
  intro a b number
  have same : b < a ↔ b.isNaN = false ∧ -place a < -place b := by
    constructor
    · intro less
      have other := (isNaN_eq_false_of_lt less).1
      have before := (lt_iff_place other number).mp less
      exact ⟨other, by omega⟩
    · rintro ⟨other, less⟩
      apply (lt_iff_place other number).mpr
      omega
  simp only [smaller, number, Bool.false_or, decide_eq_true_eq, same]

/-- A choice between two doubles that takes the later one in an order.  What is not a number is passed over,
and of two numbers that stand together either may be taken.  Nothing is asked where the first operand is not
a number, since choosing among many starts with a number and keeps to numbers. -/
structure Selects (before : Float → Float → Prop) (choose : Float → Float → Float) : Prop where
  skips : ∀ a b, a.isNaN = false → b.isNaN = true → choose a b = a
  takes : ∀ a b, a.isNaN = false → b.isNaN = false → choose a b = a ∨ choose a b = b
  left : ∀ a b, a.isNaN = false → b.isNaN = false → before a (choose a b)
  right : ∀ a b, a.isNaN = false → b.isNaN = false → before b (choose a b)

theorem Prefers.selects {choose : Float → Float → Float} {key : Float → Int}
    (prefers : Prefers choose key) : Selects (fun a b => key a ≤ key b) choose where
  skips a b number undefined := by
    rw [prefers a b number, undefined]
    exact if_neg fun surpassed => Bool.noConfusion surpassed.1
  takes a b number _ := by
    rw [prefers a b number]
    split
    · exact .inr rfl
    · exact .inl rfl
  left a b number _ := by
    rw [prefers a b number]
    split
    · rename_i surpassed
      exact Int.le_of_lt surpassed.2
    · exact Int.le_refl _
  right a b number other := by
    rw [prefers a b number]
    split
    · exact Int.le_refl _
    · rename_i kept
      exact Int.not_lt.mp fun less => kept ⟨other, less⟩

/-! ### Choosing among many -/

/-- A number that is the start or among the values, and that no other number there surpasses. -/
structure Extreme (key : Float → Int) (start : Float) (values : List Float) (result : Float) :
    Prop where
  number : result.isNaN = false
  found : result = start ∨ result ∈ values
  fromStart : key start ≤ key result
  bound : ∀ value ∈ values, value.isNaN = false → key value ≤ key result

section Selecting

variable {choose : Float → Float → Float} {key : Float → Int} {start : Float}

/-- Choosing between an extreme of some values and a number that no other one surpasses finds an extreme of
all. -/
theorem Selects.extreme_append (selects : Selects (fun a b => key a ≤ key b) choose)
    {values others : List Float} {a b : Float} (extreme : Extreme key start values a)
    (number : b.isNaN = false) (found : b = start ∨ b ∈ others)
    (bound : ∀ value ∈ others, value.isNaN = false → key value ≤ key b) :
    Extreme key start (values ++ others) (choose a b) := by
  have left := selects.left a b extreme.number number
  have right := selects.right a b extreme.number number
  refine ⟨?_, ?_, Int.le_trans extreme.fromStart left, fun value member defined => ?_⟩
  · rcases selects.takes a b extreme.number number with same | same
    · rw [same]
      exact extreme.number
    · rw [same]
      exact number
  · rcases selects.takes a b extreme.number number with same | same
    · rw [same]
      exact extreme.found.imp_right (List.mem_append_left _)
    · rw [same]
      exact found.imp_right (List.mem_append_right _)
  · rcases List.mem_append.mp member with member | member
    · exact Int.le_trans (extreme.bound value member defined) left
    · exact Int.le_trans (bound value member defined) right

/-- One step: with the next value, whether it is a number or not, an extreme of one more is found. -/
theorem Selects.extreme_concat (selects : Selects (fun a b => key a ≤ key b) choose)
    {values : List Float} {a : Float} (extreme : Extreme key start values a) (value : Float) :
    Extreme key start (values ++ [value]) (choose a value) := by
  cases defined : value.isNaN with
  | true =>
      rw [selects.skips a value extreme.number defined]
      refine ⟨extreme.number, ?_, extreme.fromStart, fun other member number => ?_⟩
      · exact extreme.found.imp_right (List.mem_append_left _)
      · rcases List.mem_append.mp member with member | same
        · exact extreme.bound other member number
        · rw [List.mem_singleton.mp same, defined] at number
          cases number
  | false =>
      refine selects.extreme_append extreme defined (.inr (List.mem_singleton_self value)) ?_
      intro other same _
      rw [List.mem_singleton.mp same]

/-- Choosing one after the other finds an extreme. -/
theorem Selects.extreme_foldl (selects : Selects (fun a b => key a ≤ key b) choose)
    (number : start.isNaN = false) (values : List Float) :
    Extreme key start values (values.foldl choose start) := by
  induction values using List.reverseRecOn with
  | nil =>
      exact
        { number := number
          found := .inl rfl
          fromStart := Int.le_refl _
          bound := fun _ member => absurd member List.not_mem_nil }
  | append_singleton values value ih =>
      rw [List.foldl_append]
      exact selects.extreme_concat ih value

end Selecting

/-- An extreme is not surpassed by that of fewer values. -/
theorem Extreme.key_le {key : Float → Int} {start a b : Float} {values others : List Float}
    (few : Extreme key start values a) (many : Extreme key start others b)
    (within : ∀ value ∈ values, value ∈ others) : key a ≤ key b := by
  rcases few.found with rfl | member
  · exact many.fromStart
  · exact many.bound a (within a member) few.number

/-- An extreme of equal values is that value, unless the start surpasses it. -/
theorem Extreme.key_eq {key : Float → Int} {start result x : Float} {values : List Float}
    (extreme : Extreme key start values result) (lowest : key start ≤ key x)
    (number : x.isNaN = false) (member : x ∈ values) (every : ∀ value ∈ values, value = x) :
    key result = key x := by
  refine Int.le_antisymm ?_ (extreme.bound x member number)
  rcases extreme.found with rfl | found
  · exact lowest
  · exact Int.le_of_eq (congrArg key (every result found))

/-! ### Boxes -/

namespace Tensor

theorem foldl_eq_foldl_toList {β : Type} (t : Tensor Float) (step : β → Float → β) (start : β) :
    t.foldl step start = t.cells.toList.foldl step start := by
  rw [foldl, ← Vector.foldl_toList]

theorem mem_cells_iff {t : Tensor Float} {value : Float} :
    value ∈ t.cells.toList ↔ ∃ index, t.get? index = some value := by
  rcases t with ⟨shape, cells⟩
  rw [Vector.mem_toList_iff, Vector.mem_iff_getElem]
  constructor
  · rintro ⟨place, small, rfl⟩
    refine ⟨unravel shape place, ?_⟩
    rw [get?_mk cells (inBox_unravel small) (by rwa [offset_unravel small])]
    simp only [offset_unravel small]
  · rintro ⟨index, found⟩
    have inside : InBox shape index := inBox_of_get? found
    rw [get?_mk cells inside (offset_lt inside)] at found
    exact ⟨offset shape index, offset_lt inside, Option.some.inj found⟩

variable {a b : Tensor Float}

theorem extreme_largest (t : Tensor Float) :
    Extreme place negativeInfinity t.cells.toList t.largest := by
  rw [largest, foldl_eq_foldl_toList]
  exact prefers_larger.selects.extreme_foldl (by decide) _

theorem extreme_smallest (t : Tensor Float) :
    Extreme (fun x => -place x) positiveInfinity t.cells.toList t.smallest := by
  rw [smallest, foldl_eq_foldl_toList]
  exact prefers_smaller.selects.extreme_foldl (by decide) _

/-- Boxes with the same values have the same largest value, and it is bit for bit the same unless it is
zero. -/
theorem sameNumber_largest
    (same : ∀ value, (∃ index, a.get? index = some value) ↔ ∃ index, b.get? index = some value) :
    SameNumber a.largest b.largest := by
  simp only [← mem_cells_iff] at same
  have one := a.extreme_largest.key_le b.extreme_largest fun value => (same value).mp
  have two := b.extreme_largest.key_le a.extreme_largest fun value => (same value).mpr
  exact sameNumber_of_place_eq (Int.le_antisymm one two)

theorem sameNumber_smallest
    (same : ∀ value, (∃ index, a.get? index = some value) ↔ ∃ index, b.get? index = some value) :
    SameNumber a.smallest b.smallest := by
  simp only [← mem_cells_iff] at same
  have one := a.extreme_smallest.key_le b.extreme_smallest fun value => (same value).mp
  have two := b.extreme_smallest.key_le a.extreme_smallest fun value => (same value).mpr
  apply sameNumber_of_place_eq
  omega

/-- A box that has the same number in every cell has it as its largest value. -/
theorem sameNumber_largest_of_const {t : Tensor Float} {x : Float} (number : x.isNaN = false)
    (present : ∃ index, t.get? index = some x)
    (every : ∀ index value, t.get? index = some value → value = x) : SameNumber t.largest x := by
  have least : place negativeInfinity = -(infinityBits : Int) := by decide
  refine sameNumber_of_place_eq (t.extreme_largest.key_eq ?_ number (mem_cells_iff.mpr present) ?_)
  · rw [least]
    exact (place_bounds number).1
  · intro value member
    obtain ⟨index, found⟩ := mem_cells_iff.mp member
    exact every index value found

theorem sameNumber_smallest_of_const {t : Tensor Float} {x : Float} (number : x.isNaN = false)
    (present : ∃ index, t.get? index = some x)
    (every : ∀ index value, t.get? index = some value → value = x) : SameNumber t.smallest x := by
  have most : place positiveInfinity = (infinityBits : Int) := by decide
  have same := t.extreme_smallest.key_eq (x := x) ?_ number (mem_cells_iff.mpr present) ?_
  · apply sameNumber_of_place_eq
    omega
  · rw [most]
    exact Int.neg_le_neg (place_bounds number).2
  · intro value member
    obtain ⟨index, found⟩ := mem_cells_iff.mp member
    exact every index value found

end Tensor

end WaveMedium
