/-
Module: WaveMedium.Proofs.Plot.Position
Purpose: Which values of a field have a place on its colour scale.
Main exports:
  Plot.OnScale, Plot.OnScale.clampUnit, Plot.OnScale.cast, Plot.OnScale.scalePosition,
  Plot.isNaN_scalePosition, Plot.colourPosition_answer
-/
import Mathlib
import WaveMedium.Plot
import WaveMedium.Proofs.Number.Monotone

/-!
A scale runs from its least to its greatest value, and a place on it is the share of the scale that lies
below.  The share is a quotient of two differences, and a difference of two finite doubles may be infinite.
If only that of the ends is, the share is zero.  If that of the value from the least one is infinite as well,
the quotient is of two infinities and undefined.
-/

namespace WaveMedium.Plot

open Number

/-- A place on a colour scale: a number between zero and one. -/
structure OnScale (x : Float) : Prop where
  number : x.isNaN = false
  lower : 0.0 ≤ x
  upper : x ≤ 1.0

instance (x : Float) : Decidable (OnScale x) :=
  decidable_of_iff (x.isNaN = false ∧ 0.0 ≤ x ∧ x ≤ 1.0)
    ⟨fun ⟨number, lower, upper⟩ => ⟨number, lower, upper⟩,
      fun ⟨number, lower, upper⟩ => ⟨number, lower, upper⟩⟩

section Clamp

variable {x : Float}

/-- Every number has a place after it has been kept between the ends. -/
theorem OnScale.clampUnit (number : x.isNaN = false) : OnScale (clampUnit x) := by
  unfold Plot.clampUnit
  split
  · decide
  · rename_i above
    split
    · decide
    · rename_i below
      exact ⟨number, (le_iff_not_lt (by decide) number).mpr above,
        (le_iff_not_lt number (by decide)).mpr below⟩

/-- What is undefined is neither below nor above. -/
theorem clampUnit_of_isNaN (undefined : x.isNaN = true) : clampUnit x = x := by
  have below : ¬ x < 0.0 := fun less =>
    Bool.false_ne_true ((isNaN_eq_false_of_lt less).1.symm.trans undefined)
  have above : ¬ 1.0 < x := fun less =>
    Bool.false_ne_true ((isNaN_eq_false_of_lt less).2.symm.trans undefined)
  rw [clampUnit, if_neg below, if_neg above]

theorem OnScale.cast (precision : Precision) (placed : OnScale x) : OnScale (precision.cast x) := by
  have one : precision.cast 1.0 = 1.0 := by cases precision <;> decide
  have lower := cast_mono precision placed.lower
  have upper := cast_mono precision placed.upper
  rw [(cast_zero precision).1] at lower
  rw [one] at upper
  exact ⟨(isNaN_cast precision x).trans placed.number, lower, upper⟩

end Clamp

section Position

variable {value least greatest : Float}

/-- A value at a finite distance from the least one has a place. -/
theorem OnScale.scalePosition (left : least.isFinite = true) (right : greatest.isFinite = true)
    (near : (value - least).isFinite = true) : OnScale (scalePosition value least greatest) := by
  apply OnScale.clampUnit
  split
  · rename_i apart
    exact (rounds_div_of_lt near (difference_pos left right apart)).isNaN_eq_false
  · decide

/-- A value at no finite distance from the least one has none: the ends are no nearer to each other, and the
share is that of infinity in infinity. -/
theorem isNaN_scalePosition (left : least.isFinite = true) (right : greatest.isFinite = true)
    (lower : least ≤ value) (upper : value ≤ greatest) (far : ¬ (value - least).isFinite = true) :
    (Plot.scalePosition value least greatest).isNaN = true := by
  have middle := isFinite_of_le_of_le lower upper left right
  have distance : value - least = positiveInfinity :=
    (isFinite_or_eq_positiveInfinity (difference_nonneg left middle lower)).resolve_left far
  have length : greatest - least = positiveInfinity :=
    eq_positiveInfinity_of_le (distance ▸ difference_le left middle right upper)
  have apart : least < greatest := by
    rcases le_or_lt (isNaN_eq_false_of_isFinite right) (isNaN_eq_false_of_isFinite left) with le | less
    · have shorter := difference_le left right left le
      rw [length] at shorter
      have difference := isFinite_sub_self left
      rw [eq_positiveInfinity_of_le shorter] at difference
      cases difference
    · exact less
  have share : (positiveInfinity / positiveInfinity).isNaN = true := by decide
  rw [Plot.scalePosition, if_pos apart, distance, length, clampUnit_of_isNaN share]
  exact share

/-- Between finite ends the values at a finite distance from the least one have a place on the scale, before
and after it is stored, and the others have an undefined one.  Every value has a place if the ends are at a
finite distance from each other. -/
theorem colourPosition_answer (left : least.isFinite = true) (right : greatest.isFinite = true)
    (lower : least ≤ value) (upper : value ≤ greatest) :
    (if (value - least).isFinite = true then
      OnScale (scalePosition value least greatest) ∧ OnScale (colourPosition value least greatest)
    else
      (scalePosition value least greatest).isNaN = true ∧
        (colourPosition value least greatest).isNaN = true) ∧
    ((greatest - least).isFinite = true → (value - least).isFinite = true) := by
  have middle := isFinite_of_le_of_le lower upper left right
  constructor
  · split
    · rename_i near
      have placed := OnScale.scalePosition left right near
      exact ⟨placed, placed.cast .single⟩
    · rename_i far
      have undefined := isNaN_scalePosition left right lower upper far
      exact ⟨undefined, (isNaN_cast .single _).trans undefined⟩
  · intro short
    exact isFinite_of_le_of_le (difference_nonneg left middle lower) (difference_le left middle right upper)
      zero_spec.1 short

end Position

/-- Zero has a place on the scale from minus one to three. -/
theorem colourPosition_answer_zero :
    ((-1.0 : Float).isFinite = true ∧ (3.0 : Float).isFinite = true) ∧
      ((-1.0 : Float) ≤ 0.0 ∧ (0.0 : Float) ≤ 3.0) ∧
      OnScale (scalePosition 0.0 (-1.0) 3.0) ∧ OnScale (colourPosition 0.0 (-1.0) 3.0) := by
  have ends : (-1.0 : Float).isFinite = true ∧ (3.0 : Float).isFinite = true := by decide
  have between : (-1.0 : Float) ≤ 0.0 ∧ (0.0 : Float) ≤ 3.0 := by decide
  have near : ((0.0 : Float) - -1.0).isFinite = true := by decide
  have answer := (colourPosition_answer ends.1 ends.2 between.1 between.2).1
  rw [if_pos near] at answer
  exact ⟨ends, between, answer⟩

/-- The greatest value has none if the ends are farther apart than the largest double. -/
theorem not_onScale_greatest :
    ((-1e308 : Float).isFinite = true ∧ (1e308 : Float).isFinite = true) ∧
      ((-1e308 : Float) ≤ 1e308 ∧ (1e308 : Float) ≤ 1e308) ∧
      ¬ OnScale (scalePosition 1e308 (-1e308) 1e308) ∧ ¬ OnScale (colourPosition 1e308 (-1e308) 1e308) := by
  decide +kernel

end WaveMedium.Plot
