/-
Module: WaveMedium.Proofs.Poroelastic.Mask
Purpose: Which masks of poroelastic media stay between zero and one.
Main exports:
  PoroelasticMedium.mask_cell, PoroelasticMedium.taper_of_load, PoroelasticMedium.not_taper_layeredRow
-/
import Mathlib
import WaveMedium.Proofs.Absorption.Mask
import WaveMedium.Proofs.Absorption.Medium
import WaveMedium.Proofs.Poroelastic.CriticalStep

/-!
A mask is one in the physical region, and each axis on whose layer a cell lies takes a share from it: at most
the strength of the layer over the spacing of the axis.  The sum of these quotients over all axes is the load.
A mask is a taper where the load is less than one.  Where it is more than one, the corner is below zero: a
spacing of a few tenths is enough.
-/

namespace WaveMedium

open Number

/-- What has sunk below zero is stored as a number below zero. -/
theorem cast_lt_zero (precision : Precision) {x : Float} (sunk : Absorption.Sunk x (-2 ^ (-41 : ℤ))) :
    precision.cast x < 0.0 := by
  have negative : -2 ^ (-41 : ℤ) < (0 : ℝ) := neg_lt_zero.mpr (zpow_pos two_pos _)
  obtain ⟨zero, zero_value⟩ := zero_spec
  have bounded : x.isFinite = true → toReal x ≤ -2 ^ (-41 : ℤ) → precision.cast x < 0.0 := by
    intro finite below
    have rounds := rounds_cast precision finite
    by_cases stored : (precision.cast x).isFinite = true
    · have least : precision.format.least ≤ -41 := (least_le_of_precision precision).trans (by decide)
      have rounded : precision.format.rounded (toReal x) ≤ precision.format.rounded (-2 ^ (-41 : ℤ)) :=
        Format.rounded_mono below
      rw [Format.rounded_neg, Format.rounded_two_zpow least, ← rounds.toReal_eq stored] at rounded
      rw [lt_iff_toReal_lt stored zero, zero_value]
      exact rounded.trans_lt negative
    · rw [rounds.eq_infinity stored, if_neg (not_le.mpr (below.trans_lt negative))]
      decide
  obtain ⟨lowest, minus_one⟩ := Absorption.minus_one_spec
  rcases sunk with deep | ⟨finite, below⟩
  · rcases isFinite_or_eq_negativeInfinity deep lowest with finite | rfl
    · rw [le_iff_toReal_le finite lowest, minus_one] at deep
      exact bounded finite (deep.trans (by norm_num))
    · cases precision <;> decide
  · exact bounded finite below

namespace PoroelasticMedium

section Built

variable {inputs : Inputs} {medium : PoroelasticMedium} (built : build inputs = .ok medium)
include built

/-- A cell of the mask holds one and the shares of its rows, rounded. -/
theorem mask_cell {index : List ℕ} (inside : InBox medium.geometry.grid.shape index) :
    medium.absorption.storage.get? index =
      some (medium.geometry.grid.precision.cast
        (Absorption.accumulate .mask inputs.layout.layer inputs.layout.spacing
          (Absorption.layerRows medium.geometry.grid.shape inputs.layout.layer index))) := by
  have assembled := assembled_of_build built
  have fits := assembled.fits
  obtain ⟨field, made, _, cells⟩ :=
    fits.exists_absorption (Geometry.length_spacing_of_new assembled.geometry) .mask
  rw [assembled.absorption] at made
  cases made
  rw [cells index inside, fits.layer, fits.spacing]

/-- What is stored is rounded from a sum of shares, whose bounds zero and one are stored as they are. -/
theorem exists_mask_cell {index : List ℕ} {value : Float}
    (found : medium.absorption.storage.get? index = some value) :
    value = medium.geometry.grid.precision.cast
      (Absorption.accumulate .mask inputs.layout.layer inputs.layout.spacing
        (Absorption.layerRows medium.geometry.grid.shape inputs.layout.layer index)) := by
  have inside := Tensor.inBox_of_get? found
  rw [(encloses_absorption built).shape] at inside
  rw [mask_cell built inside] at found
  exact (Option.some.inj found).symm

/-- The layer can be counted, there are at most three axes, and each has a positive spacing. -/
theorem mask_axes :
    inputs.layout.layer ≤ 2 ^ 64 ∧
      inputs.layout.spacing.length = medium.geometry.grid.shape.length ∧
      medium.geometry.grid.shape.length ≤ 3 ∧ (∀ n ∈ medium.geometry.grid.shape, 0 < n) ∧
      ∀ step ∈ inputs.layout.spacing, step.isFinite = true ∧ 0 < toReal step := by
  have assembled := assembled_of_build built
  have fits := assembled.fits
  have steps := Geometry.toReal_spacing_pos assembled.geometry
  have axes := Geometry.length_spacing_of_new assembled.geometry
  rw [fits.spacing] at steps axes
  have ranks : medium.geometry.grid.shape.length = inputs.layout.shape.length := by
    rw [fits.padded, List.length_map]
  refine ⟨?_, axes.trans ranks.symm, ranks.trans_le fits.fewAxes, ?_, steps⟩
  · obtain ⟨n, axis⟩ := List.exists_mem_of_ne_nil _ fits.someAxes
    have counted := fits.counted
    rw [fits.padded] at counted
    have small : n + 2 * inputs.layout.layer < 2 ^ 64 := counted _ (List.mem_map_of_mem axis)
    omega
  · rw [fits.padded]
    intro n member
    obtain ⟨k, axis, rfl⟩ := List.mem_map.mp member
    exact Nat.add_pos_left (fits.positive k axis) _

/-- A mask stays between zero and one if there is no layer or the load is below one.  Where the load is above
one, the first cell is below zero.  No mask of a layer that is not very wide exceeds one, whatever the
load. -/
theorem taper_of_load :
    (inputs.layout.layer = 0 ∨ Absorption.load inputs.layout.spacing ≤ 1 - 1 / 10 ^ 12 →
      ∀ index value, medium.absorption.storage.get? index = some value → 0.0 ≤ value ∧ value ≤ 1.0) ∧
    (inputs.layout.layer ≤ 2 ^ 26 →
      ∀ index value, medium.absorption.storage.get? index = some value → value ≤ 1.0) ∧
    (0 < inputs.layout.layer → 1 + 1 / 10 ^ 12 ≤ Absorption.load inputs.layout.spacing →
      ∃ value, medium.absorption.storage.get? (medium.geometry.grid.shape.map fun _ => 0) = some value ∧
        value < 0.0) := by
  obtain ⟨counted, axes, rank, positive, steps⟩ := mask_axes built
  obtain ⟨one, zero⟩ := AcousticMedium.cast_absent medium.geometry.grid.precision
  refine ⟨?_, ?_, ?_⟩
  · intro mild index value found
    rw [exists_mask_cell built found]
    have bounds : 0.0 ≤ Absorption.accumulate .mask inputs.layout.layer inputs.layout.spacing
          (Absorption.layerRows medium.geometry.grid.shape inputs.layout.layer index) ∧
        Absorption.accumulate .mask inputs.layout.layer inputs.layout.spacing
          (Absorption.layerRows medium.geometry.grid.shape inputs.layout.layer index) ≤ 1.0 := by
      rcases mild with absent | light
      · rw [absent, Absorption.layerRows_eq_nil fun distance _ => Nat.zero_le distance, Absorption.accumulate_nil]
        decide
      · have room : Absorption.load inputs.layout.spacing + 3 / 2 ^ 44 ≤ 1 := by
          norm_num at light ⊢
          linarith
        obtain ⟨finite, low, high⟩ := Absorption.accumulate_bounds counted axes steps rank room index
        constructor
        · rwa [le_iff_toReal_le zero_spec.1 finite, zero_spec.2]
        · rwa [le_iff_toReal_le finite spans_one.finite, toReal_one]
    have lower := cast_mono medium.geometry.grid.precision bounds.1
    have upper := cast_mono medium.geometry.grid.precision bounds.2
    rw [zero] at lower
    rw [one] at upper
    exact ⟨lower, upper⟩
  · intro narrow index value found
    have upper := cast_mono medium.geometry.grid.precision
      (Absorption.accumulate_le_one counted axes steps narrow index)
    rwa [one, ← exists_mask_cell built found] at upper
  · intro wide heavy
    refine ⟨_, mask_cell built (inBox_zeros positive), cast_lt_zero _ ?_⟩
    refine (Absorption.sunk_corner counted axes steps rank wide).imp_right fun ⟨finite, below⟩ => ⟨finite, ?_⟩
    refine below.trans ?_
    norm_num at heavy ⊢
    linarith

end Built

/-- Three points of a uniform rock inside a layer of one point, with a given spacing. -/
def layeredRow (step : Float) : Inputs :=
  { frameOnGrains .double 6.5 35.0 with
    layout := { origin := [0.0], spacing := [step], shape := [3], layer := 1, precision := .double } }

theorem layeredRows_evaluated :
    (build (layeredRow 10.0)).toBool = true ∧
      (build (layeredRow 0.1)).toOption.map (fun medium =>
          (medium.absorption.storage.get? [0]).map fun value => decide (value < 0.0)) =
        some (some true) := by
  decide +kernel

/-- Ten units apart, the points have a taper around them.  A tenth of a unit apart, they bear a load of more
than two. -/
theorem taper_of_load_layeredRows :
    (∃ medium, build (layeredRow 10.0) = .ok medium ∧ Absorption.load [10.0] ≤ 1 - 1 / 10 ^ 12 ∧
      ∀ index value, medium.absorption.storage.get? index = some value → 0.0 ≤ value ∧ value ≤ 1.0) ∧
    ∃ medium, build (layeredRow 0.1) = .ok medium ∧ 1 + 1 / 10 ^ 12 ≤ Absorption.load [0.1] ∧
      (∀ index value, medium.absorption.storage.get? index = some value → value ≤ 1.0) ∧
      ∃ value, medium.absorption.storage.get? [0] = some value ∧ value < 0.0 := by
  obtain ⟨wide, narrow⟩ := layeredRows_evaluated
  have least := Absorption.spans_coefficient.lower
  have most := Absorption.spans_coefficient.upper
  norm_num at least most
  constructor
  · obtain ⟨medium, built⟩ := exists_eq_ok_of_toBool wide
    have ten : Binary.ofFloat 10.0 = .finite false 5629499534213120 (-49) := by decide
    have light : Absorption.load [10.0] ≤ 1 - 1 / 10 ^ 12 := by
      rw [Absorption.load, List.map_singleton, List.sum_singleton, (spec_of_parts ten).2]
      norm_num
      linarith
    exact ⟨medium, built, light, (taper_of_load built).1 (.inr light)⟩
  · obtain ⟨medium, built, _⟩ := exists_of_map_toOption narrow
    have tenth : Binary.ofFloat 0.1 = .finite false 7205759403792794 (-56) := by decide
    have heavy : 1 + 1 / 10 ^ 12 ≤ Absorption.load [0.1] := by
      rw [Absorption.load, List.map_singleton, List.sum_singleton, (spec_of_parts tenth).2]
      norm_num
      linarith
    obtain ⟨_, upper, corner⟩ := taper_of_load built
    obtain ⟨value, cell, below⟩ := corner Nat.one_pos heavy
    have shape : medium.geometry.grid.shape = [5] := (assembled_of_build built).fits.padded
    rw [shape] at cell
    exact ⟨medium, built, heavy, upper (by decide), value, cell, below⟩

/-- A mask that is no taper: around points a tenth of a unit apart its first cell is below zero. -/
theorem not_taper_layeredRow :
    ∃ medium value, build (layeredRow 0.1) = .ok medium ∧
      medium.absorption.storage.get? [0] = some value ∧ ¬ (0.0 ≤ value ∧ value ≤ 1.0) := by
  obtain ⟨medium, built, shown⟩ := exists_of_map_toOption layeredRows_evaluated.2
  obtain ⟨value, cell, below⟩ := Option.map_eq_some_iff.mp shown
  exact ⟨medium, value, built, cell, fun within => not_le_of_lt (of_decide_eq_true below) within.1⟩

end PoroelasticMedium

end WaveMedium
