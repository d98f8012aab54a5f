/-
Module: WaveMedium.Proofs.Poroelastic.CriticalStep
Purpose: Where a poroelastic medium of moderate values holds what is no number, and when its critical time
  step is finite and positive.
Main exports:
  PoroelasticMedium.Inputs.Moderate, PoroelasticMedium.Assembled.moderate_rockAt,
  PoroelasticMedium.sound_of_moderate
-/
import Mathlib
import WaveMedium.Proofs.Number.Cast
import WaveMedium.Proofs.Poroelastic.Covering
import WaveMedium.Proofs.Poroelastic.Size
import WaveMedium.Proofs.Spacing

namespace WaveMedium

open Number

namespace PoroelasticMedium

/-- The properties whose size counts in the formulas: densities and moduli. -/
def sizedProperties : List RockProperty :=
  [.solidDensity, .fluidDensity, .drainedBulkModulus, .solidBulkModulus, .fluidBulkModulus, .shearModulus]

/-- Inputs that are neither tiny nor huge, in whichever units they are given, with a porosity between zero
and one. -/
structure Inputs.Moderate (inputs : Inputs) : Prop where
  sized : ∀ property ∈ sizedProperties, ∀ quantity ∈ inputs.values.get property,
    quantity.Every fun value => 1e-12 ≤ value ∧ value ≤ 1e12
  porous : ∀ quantity ∈ inputs.values.porosity, quantity.Every fun value => 0.0 < value ∧ value < 1.0
  spaced : ∀ step ∈ inputs.layout.spacing, 1e-250 ≤ step ∧ step ≤ 1e250

/-! ### Stored rocks -/

section Stored

variable {inputs : Inputs} {medium : PoroelasticMedium}

/-- What a supplied field stores in a cell is one of the values that were supplied, rounded. -/
theorem Assembled.exists_value (assembled : Assembled inputs medium) (property : RockProperty)
    {index : List Nat} (inside : InBox (inputs.layout.storageShape inputs.spaceOrder) index) :
    ∃ quantity, inputs.values.get property = some quantity ∧
      ∀ p : Float → Prop, quantity.Every p →
        ∃ value, p value ∧
          (medium.rockAt index).get property = medium.geometry.grid.precision.cast value := by
  obtain ⟨quantity, found, made⟩ := assembled.supplied property
  have fits := assembled.fits
  have point := inBox_nearest fits.positive inside
  refine ⟨quantity, found, fun p every => ?_⟩
  rw [assembled.rockAt_eq inside, Inputs.rockOn, RockTable.get_map, found]
  cases quantity with
  | uniform value => exact ⟨value, every, rfl⟩
  | varying values =>
      obtain ⟨_, _, fills, _⟩ := fits.of_field_varying made
      have within : InBox values.shape (inputs.layout.nearestPoint inputs.spaceOrder index) := by
        rw [fills, fits.shape]
        exact point
      exact ⟨_, every _ _ (Tensor.get?_eq_getD within 0.0), rfl⟩

theorem spans_cast (precision : Precision) {value : Float} (least : 1e-12 ≤ value) (most : value ≤ 1e12) :
    Spans (precision.cast value) (-40) 40 := by
  have low : Binary.ofFloat 1e-12 = .finite false 4951760157141521 (-92) := by decide
  have high : Binary.ofFloat 1e12 = .finite false 8192000000000000 (-13) := by decide
  have spans : Spans value (-40) 40 :=
    spans_of_le_of_le (spans_of_parts low (a := 52) (b := 53) (by norm_num) (by norm_num))
      (spans_of_parts high (a := 52) (b := 53) (by norm_num) (by norm_num)) least most
  exact spans.cast precision (by decide) (by decide)

theorem porosity_cast (precision : Precision) {value : Float} (least : 0.0 < value) (most : value < 1.0) :
    Within (precision.cast value) 0 ∧ 0 ≤ toReal (precision.cast value) := by
  have finite := isFinite_of_le_of_le (le_of_less least) (le_of_less most) zero_spec.1 spans_one.finite
  have above := toReal_pos_of_lt finite least
  rw [lt_iff_toReal_lt finite spans_one.finite, toReal_one] at most
  have small : |toReal value| ≤ 2 ^ (0 : ℤ) := by
    rw [abs_of_pos above, zpow_zero]
    exact most.le
  have within : Within (precision.cast value) 0 :=
    Within.cast precision ⟨finite, small⟩ (by decide) (by decide)
  exact ⟨within, (rounds_cast precision finite).toReal_nonneg within.finite above.le⟩

/-- The supplied fields store a rock of moderate size in every cell. -/
theorem Assembled.moderate_rockAt (assembled : Assembled inputs medium) (moderate : inputs.Moderate)
    {index : List Nat} (inside : InBox (inputs.layout.storageShape inputs.spaceOrder) index) :
    (medium.rockAt index).Moderate := by
  have sized : ∀ property ∈ sizedProperties, Spans ((medium.rockAt index).get property) (-40) 40 := by
    intro property member
    obtain ⟨quantity, found, values⟩ := assembled.exists_value property inside
    obtain ⟨value, ⟨least, most⟩, stored⟩ := values _ (moderate.sized property member quantity found)
    rw [stored]
    exact spans_cast _ least most
  obtain ⟨quantity, found, values⟩ := assembled.exists_value .porosity inside
  obtain ⟨value, ⟨least, most⟩, stored⟩ := values _ (moderate.porous quantity found)
  obtain ⟨porosity, above⟩ := porosity_cast medium.geometry.grid.precision least most
  rw [← stored] at porosity above
  exact
    { solidDensity := sized .solidDensity (by decide)
      fluidDensity := sized .fluidDensity (by decide)
      drainedBulkModulus := sized .drainedBulkModulus (by decide)
      solidBulkModulus := sized .solidBulkModulus (by decide)
      fluidBulkModulus := sized .fluidBulkModulus (by decide)
      shearModulus := sized .shearModulus (by decide)
      porosity := porosity
      porosity_nonneg := above }

/-- A derived field stores in every cell its formula at the rock there, rounded. -/
theorem Assembled.cell_derived (assembled : Assembled inputs medium) (output : DerivedProperty)
    {index : List Nat} (inside : InBox (inputs.layout.storageShape inputs.spaceOrder) index) :
    (medium.derived.get output).operand.cell? index =
      some (medium.geometry.grid.precision.cast ((medium.rockAt index).value output)) := by
  obtain ⟨operand, holds, made⟩ := assembled.exists_output output
  exact (holds.toField made).2.1 index inside

/-! ### The largest velocity -/

section Velocity

variable (assembled : Assembled inputs medium) (moderate : inputs.Moderate) {index : List Nat}
  (inside : InBox (inputs.layout.storageShape inputs.spaceOrder) index)
include assembled moderate inside

/-- What is stored as the velocity of a stiff rock. -/
theorem Assembled.spans_velocity (stiff : 0 < toReal (medium.rockAt index).stiffness) :
    Spans (medium.geometry.grid.precision.cast (medium.rockAt index).compressionalVelocity) (-67) 122 := by
  have spans := (assembled.moderate_rockAt moderate inside).spans_compressionalVelocity stiff
  exact spans.cast _ (by decide) (by decide)

/-- What is stored as the velocity of a rock that is not stiff is zero or no number. -/
theorem Assembled.velocity_of_not_stiff (soft : ¬ 0 < toReal (medium.rockAt index).stiffness) :
    (medium.geometry.grid.precision.cast (medium.rockAt index).compressionalVelocity).isNaN = true ∨
      (medium.geometry.grid.precision.cast (medium.rockAt index).compressionalVelocity).isFinite = true ∧
        toReal (medium.geometry.grid.precision.cast (medium.rockAt index).compressionalVelocity) = 0 := by
  have rock := assembled.moderate_rockAt moderate inside
  generalize medium.geometry.grid.precision = precision
  rcases (not_lt.mp soft).lt_or_eq with negative | zero
  · exact .inl ((isNaN_cast precision _).trans (rock.isNaN_compressionalVelocity negative))
  · right
    obtain ⟨finite, value⟩ := rock.compressionalVelocity_of_zero zero
    have within : Within (precision.cast (medium.rockAt index).compressionalVelocity) 0 :=
      Within.cast precision ⟨finite, by simp [value]⟩ (by decide) (by decide)
    refine ⟨within.finite, ?_⟩
    rw [(rounds_cast precision finite).toReal_eq within.finite, value, Format.rounded_zero]

omit moderate in
/-- The largest velocity is stored in a cell, or there is none. -/
theorem Assembled.largest_spec :
    (medium.derived.compressionalVelocity.largest = negativeInfinity ∨
      ∃ cell, InBox (inputs.layout.storageShape inputs.spaceOrder) cell ∧
        medium.derived.compressionalVelocity.largest =
          medium.geometry.grid.precision.cast (medium.rockAt cell).compressionalVelocity) ∧
      ∀ cell, InBox (inputs.layout.storageShape inputs.spaceOrder) cell →
        (medium.geometry.grid.precision.cast (medium.rockAt cell).compressionalVelocity).isNaN = false →
          medium.derived.compressionalVelocity.largest.isNaN = false ∧
            place (medium.geometry.grid.precision.cast (medium.rockAt cell).compressionalVelocity) ≤
              place medium.derived.compressionalVelocity.largest := by
  obtain ⟨operand, holds, made⟩ := assembled.exists_output .compressionalVelocity
  obtain ⟨_, cells, stored⟩ := holds.toField made
  exact Field.largest_spec (fun held here => (stored held here).1) cells inside

/-- The largest velocity of a medium with a stiff rock is that of a stiff rock. -/
theorem Assembled.spans_largest (stiff : 0 < toReal (medium.rockAt index).stiffness) :
    Spans medium.derived.compressionalVelocity.largest (-67) 122 := by
  have spans := assembled.spans_velocity moderate inside stiff
  obtain ⟨found, bound⟩ := assembled.largest_spec inside
  obtain ⟨number, least⟩ := bound index inside (isNaN_eq_false_of_isFinite spans.finite)
  rcases found with absent | ⟨cell, within, here⟩
  · have above := (place_bounds_of_isFinite spans.finite).1
    rw [absent, negativeInfinity_spec.1] at least
    omega
  · by_cases rock : 0 < toReal (medium.rockAt cell).stiffness
    · rw [here]
      exact assembled.spans_velocity moderate within rock
    · rcases assembled.velocity_of_not_stiff moderate within rock with undefined | ⟨finite, zero⟩
      · rw [here, undefined] at number
        cases number
      · -- A stiff rock has a velocity above zero, so the largest is not zero.
        rw [here] at least
        have less := spans.pos
        rw [← zero, ← place_lt_iff_toReal_lt finite spans.finite] at less
        omega

/-- Without a stiff rock the largest velocity is zero or not finite. -/
theorem Assembled.largest_of_not_stiff
    (soft : ∀ cell, InBox (inputs.layout.storageShape inputs.spaceOrder) cell →
      ¬ 0 < toReal (medium.rockAt cell).stiffness)
    (finite : medium.derived.compressionalVelocity.largest.isFinite = true) :
    toReal medium.derived.compressionalVelocity.largest = 0 := by
  obtain ⟨found, _⟩ := assembled.largest_spec inside
  rcases found with absent | ⟨cell, within, here⟩
  · rw [absent] at finite
    cases negativeInfinity_spec.2.2.symm.trans finite
  · rw [here] at finite ⊢
    rcases assembled.velocity_of_not_stiff moderate within (soft cell within) with undefined | ⟨_, zero⟩
    · rw [isNaN_eq_false_of_isFinite finite] at undefined
      cases undefined
    · exact zero

end Velocity

/-! ### The critical step -/

theorem spans_sqrtTwo : Spans sqrtTwo 0 1 := by
  have parts : Binary.ofFloat sqrtTwo = .finite false 6369051672525773 (-52) := by decide
  exact spans_of_parts parts (a := 52) (b := 53) (by norm_num) (by norm_num)

theorem Assembled.spans_leastSpacing (assembled : Assembled inputs medium) (moderate : inputs.Moderate) :
    Spans medium.geometry.leastSpacing (-831) 831 := by
  have low : Binary.ofFloat 1e-250 = .finite false 6448907850777164 (-883) := by decide +kernel
  have high : Binary.ofFloat 1e250 = .finite false 6290184345309700 778 := by decide +kernel
  have member := Geometry.leastSpacing_mem assembled.geometry
  rw [assembled.fits.spacing] at member
  obtain ⟨least, most⟩ := moderate.spaced _ member
  exact spans_of_le_of_le (spans_of_parts low (a := 52) (b := 53) (by norm_num) (by norm_num))
    (spans_of_parts high (a := 52) (b := 53) (by norm_num) (by norm_num)) least most

theorem Assembled.exists_cell (assembled : Assembled inputs medium) :
    ∃ index, InBox (inputs.layout.storageShape inputs.spaceOrder) index :=
  ⟨_, (inBox_over inputs.layout.layer inputs.spaceOrder (inBox_zeros assembled.fits.positive)).1⟩

/-- The critical step is finite and positive exactly if there is a stiff rock. -/
theorem Assembled.criticalStep_iff (assembled : Assembled inputs medium) (moderate : inputs.Moderate) :
    medium.criticalStep.isFinite = true ∧ 0 < toReal medium.criticalStep ↔
      ∃ index, InBox (inputs.layout.storageShape inputs.spaceOrder) index ∧
        0 < toReal (medium.rockAt index).stiffness := by
  have spans_half : Spans 0.5 (-1) (-1) := by
    have parts : Binary.ofFloat 0.5 = .finite false 4503599627370496 (-53) := by decide
    exact spans_of_parts parts (a := 52) (b := 52) (by norm_num) (by norm_num)
  constructor
  · rintro ⟨finite, positive⟩
    by_contra! soft
    obtain ⟨index, inside⟩ := assembled.exists_cell
    have quotient : (0.5 * medium.geometry.leastSpacing /
        (sqrtTwo * medium.derived.compressionalVelocity.largest)).isFinite = true := finite
    have zero := assembled.largest_of_not_stiff moderate inside
      (fun cell within => (soft cell within).not_gt)
    by_cases bounded : medium.derived.compressionalVelocity.largest.isFinite = true
    · -- A velocity of zero makes the quotient infinite.
      have rounds := rounds_mul spans_sqrtTwo.finite bounded
      rw [zero bounded, mul_zero] at rounds
      have product := rounds.within (n := 0) (by decide) (by decide) (by norm_num)
      apply toReal_ne_zero_of_div quotient product.finite
      rw [rounds.toReal_eq product.finite, Format.rounded_zero]
    · -- A velocity that is not finite makes it zero or no number.
      have endless : ¬ (sqrtTwo * medium.derived.compressionalVelocity.largest).isFinite = true :=
        fun product => bounded (isFinite_of_mul product).2
      exact positive.ne' (toReal_div_of_endless quotient endless)
  · rintro ⟨index, inside, stiff⟩
    have largest := assembled.spans_largest moderate inside stiff
    have spacing := assembled.spans_leastSpacing moderate
    have step := (spans_half.mul spacing (by norm_num) (by norm_num)).div
      (spans_sqrtTwo.mul largest (by norm_num) (by norm_num)) (by norm_num) (by norm_num)
    exact ⟨step.finite, step.pos⟩

/-- In a medium of moderate values only the compressional velocity can be undefined, and it is so in exactly
the cells of negative stiffness.  No rock whose Biot coefficient reaches its porosity has one.  The critical
step is finite and positive exactly if some cell has a positive stiffness: undefined velocities are passed
over. -/
theorem sound_of_moderate (built : build inputs = .ok medium) (moderate : inputs.Moderate) :
    (∀ index, InBox (inputs.layout.storageShape inputs.spaceOrder) index →
      (∀ output, ∃ value, (medium.derived.get output).operand.cell? index = some value ∧
        (value.isNaN = true ↔
          output = .compressionalVelocity ∧ (medium.rockAt index).stiffness < 0.0)) ∧
      ((medium.rockAt index).porosity ≤ (medium.rockAt index).biotCoefficient →
        0.0 < (medium.rockAt index).stiffness)) ∧
    (medium.criticalStep.isFinite = true ∧ 0.0 < medium.criticalStep ↔
      ∃ index, InBox (inputs.layout.storageShape inputs.spaceOrder) index ∧
        0.0 < (medium.rockAt index).stiffness) := by
  have assembled := assembled_of_build built
  obtain ⟨zero, zero_value⟩ := zero_spec
  have positive_iff : ∀ index, InBox (inputs.layout.storageShape inputs.spaceOrder) index →
      (0.0 < (medium.rockAt index).stiffness ↔ 0 < toReal (medium.rockAt index).stiffness) := by
    intro index inside
    have finite := (assembled.moderate_rockAt moderate inside).within_stiffness.finite
    rw [lt_iff_toReal_lt zero finite, zero_value]
  constructor
  · intro index inside
    have rock := assembled.moderate_rockAt moderate inside
    constructor
    · intro output
      refine ⟨_, assembled.cell_derived output inside, ?_⟩
      rw [isNaN_cast, lt_iff_toReal_lt rock.within_stiffness.finite zero, zero_value]
      by_cases velocity : output = .compressionalVelocity
      · subst velocity
        exact rock.isNaN_compressionalVelocity_iff.trans (and_iff_right rfl).symm
      · rw [isNaN_eq_false_of_isFinite (rock.isFinite_value velocity)]
        simp [velocity]
    · intro coupled
      rw [le_iff_toReal_le rock.porosity.finite rock.within_biotCoefficient.finite] at coupled
      exact (positive_iff index inside).mpr (rock.stiffness_pos coupled)
  · have step : medium.criticalStep.isFinite = true →
        (0.0 < medium.criticalStep ↔ 0 < toReal medium.criticalStep) := by
      intro finite
      rw [lt_iff_toReal_lt zero finite, zero_value]
    rw [and_congr_right step, assembled.criticalStep_iff moderate]
    apply exists_congr
    intro index
    apply and_congr_right
    intro inside
    exact (positive_iff index inside).symm

end Stored

/-- The sandstone is of moderate size. -/
theorem moderate_sandstone : sandstone.Moderate where
  sized := by decide
  porous := by decide
  spaced := by decide +kernel

theorem sound_of_moderate_sandstone :
    ∃ medium, build sandstone = .ok medium ∧ sandstone.Moderate ∧
      medium.criticalStep.isFinite = true ∧ 0.0 < medium.criticalStep := by
  have shown :
      (build sandstone).toOption.map (fun medium => decide (0.0 < (medium.rockAt [0]).stiffness)) =
        some true := by decide +kernel
  obtain ⟨medium, built, stiff⟩ := exists_of_map_toOption shown
  have moderate := moderate_sandstone
  obtain ⟨_, step⟩ := sound_of_moderate built moderate
  have here : InBox (sandstone.layout.storageShape sandstone.spaceOrder) [0] := by decide
  exact ⟨medium, built, moderate, step.mpr ⟨[0], here, of_decide_eq_true stiff⟩⟩

/-- Three points of a uniform rock without a layer, whose frame and grains have the given bulk moduli. -/
def frameOnGrains (precision : Precision) (drained solid : Float) : Inputs where
  layout := { origin := [0.0], spacing := [10.0], shape := [3], layer := 0, precision := precision }
  values :=
    { solidDensity := some (.uniform 2.5)
      fluidDensity := some (.uniform 1.0)
      drainedBulkModulus := some (.uniform drained)
      solidBulkModulus := some (.uniform solid)
      fluidBulkModulus := some (.uniform 2.25)
      fluidViscosity := some (.uniform 0.001)
      porosity := some (.uniform 0.2)
      permeability := some (.uniform 0.6)
      shearModulus := some (.uniform 5.5)
      tortuosity := some (.uniform 2.0) }
  spaceOrder := 2
  grid := none

/-- A frame that is stiffer than its grains has no compressional velocity and no critical step.  Moduli that
are too small for single precision leave not even a Biot coefficient. -/
theorem not_sound_frameOnGrains :
    (∃ medium, build (frameOnGrains .double 100.0 1.0) = .ok medium ∧
      (medium.derived.get .compressionalVelocity).operand.cell? [0] = some Float.nan ∧
      medium.criticalStep.isFinite = false) ∧
    ∃ medium, build (frameOnGrains .single 1e-50 1e-50) = .ok medium ∧
      (medium.derived.get .biotCoefficient).operand.cell? [0] = some Float.nan := by
  constructor
  · have shown :
        (build (frameOnGrains .double 100.0 1.0)).toOption.map (fun medium =>
            (decide ((medium.derived.get .compressionalVelocity).operand.cell? [0] = some Float.nan),
              medium.criticalStep.isFinite)) =
          some (true, false) := by decide +kernel
    obtain ⟨medium, built, facts⟩ := exists_of_map_toOption shown
    obtain ⟨undefined, endless⟩ := Prod.mk.inj facts
    exact ⟨medium, built, of_decide_eq_true undefined, endless⟩
  · have shown :
        (build (frameOnGrains .single 1e-50 1e-50)).toOption.map (fun medium =>
            decide ((medium.derived.get .biotCoefficient).operand.cell? [0] = some Float.nan)) =
          some true := by decide +kernel
    obtain ⟨medium, built, undefined⟩ := exists_of_map_toOption shown
    exact ⟨medium, built, of_decide_eq_true undefined⟩

end PoroelasticMedium

end WaveMedium
