/-
Module: WaveMedium.Proofs.Poroelastic.Size
Purpose: How large the derived properties of a rock of moderate size are, and which of them are numbers.
Main exports:
  RockTable.stiffness, RockTable.Moderate, RockTable.Moderate.isFinite_value,
  RockTable.Moderate.spans_compressionalVelocity, RockTable.Moderate.isNaN_compressionalVelocity
-/
import Mathlib
import WaveMedium.Proofs.Number.Sign
import WaveMedium.Proofs.Number.Size
import WaveMedium.Proofs.Poroelastic.Derivation

namespace WaveMedium

open Number

namespace RockTable

/-- The stiffness of a saturated rock against compression. -/
def stiffness (rock : RockTable Float) : Float :=
  rock.undrainedBulkModulus + 4.0 * rock.shearModulus / 3.0

/-- A rock whose densities and moduli are neither tiny nor huge, and whose porosity is a share. -/
structure Moderate (rock : RockTable Float) : Prop where
  solidDensity : Spans rock.solidDensity (-40) 40
  fluidDensity : Spans rock.fluidDensity (-40) 40
  drainedBulkModulus : Spans rock.drainedBulkModulus (-40) 40
  solidBulkModulus : Spans rock.solidBulkModulus (-40) 40
  fluidBulkModulus : Spans rock.fluidBulkModulus (-40) 40
  shearModulus : Spans rock.shearModulus (-40) 40
  porosity : Within rock.porosity 0
  porosity_nonneg : 0 ≤ toReal rock.porosity

namespace Moderate

variable {rock : RockTable Float} (moderate : rock.Moderate)
include moderate

theorem porosity_le_one : toReal rock.porosity ≤ 1 := by
  simpa using (le_abs_self _).trans moderate.porosity.bound

/-! ### Moduli -/

theorem rounds_biotCoefficient :
    Rounds .double rock.biotCoefficient
      (1 - toReal (rock.drainedBulkModulus / rock.solidBulkModulus)) := by
  have quotient := moderate.drainedBulkModulus.div moderate.solidBulkModulus (by norm_num) (by norm_num)
  rw [← toReal_one]
  exact rounds_sub spans_one.finite quotient.finite

theorem within_biotCoefficient : Within rock.biotCoefficient 80 := by
  have quotient : Spans (rock.drainedBulkModulus / rock.solidBulkModulus) (-80) 80 :=
    moderate.drainedBulkModulus.div moderate.solidBulkModulus (by norm_num) (by norm_num)
  apply moderate.rounds_biotCoefficient.within (by decide) (by decide)
  have positive := quotient.pos
  have most := quotient.upper
  have one : (1 : ℝ) ≤ 2 ^ (80 : ℤ) := one_le_zpow₀ one_le_two (by norm_num)
  rw [abs_le]
  constructor <;> linarith

theorem biotCoefficient_le_one : toReal rock.biotCoefficient ≤ 1 := by
  have quotient := moderate.drainedBulkModulus.div moderate.solidBulkModulus (by norm_num) (by norm_num)
  rw [← zpow_zero (2 : ℝ)]
  apply moderate.rounds_biotCoefficient.toReal_le moderate.within_biotCoefficient.finite (by decide)
  rw [zpow_zero]
  linarith [quotient.pos]

/-- What the Biot coefficient is above the porosity. -/
theorem within_excess : Within (rock.biotCoefficient - rock.porosity) 81 :=
  moderate.within_biotCoefficient.sub (moderate.porosity.mono (by norm_num)) (by norm_num) (by norm_num)

theorem rounds_excess :
    Rounds .double (rock.biotCoefficient - rock.porosity)
      (toReal rock.biotCoefficient - toReal rock.porosity) :=
  rounds_sub moderate.within_biotCoefficient.finite moderate.porosity.finite

theorem excess_le_one : toReal (rock.biotCoefficient - rock.porosity) ≤ 1 := by
  rw [← zpow_zero (2 : ℝ)]
  apply moderate.rounds_excess.toReal_le moderate.within_excess.finite (by decide)
  rw [zpow_zero]
  linarith [moderate.biotCoefficient_le_one, moderate.porosity_nonneg]

theorem within_solidShare :
    Within ((rock.biotCoefficient - rock.porosity) / rock.solidBulkModulus) 121 :=
  moderate.within_excess.div moderate.solidBulkModulus (by norm_num) (by norm_num)

theorem rounds_solidShare :
    Rounds .double ((rock.biotCoefficient - rock.porosity) / rock.solidBulkModulus)
      (toReal (rock.biotCoefficient - rock.porosity) / toReal rock.solidBulkModulus) :=
  rounds_div moderate.within_excess.finite moderate.solidBulkModulus.finite
    moderate.solidBulkModulus.pos.ne'

theorem solidShare_le :
    toReal ((rock.biotCoefficient - rock.porosity) / rock.solidBulkModulus) ≤ 2 ^ (40 : ℤ) := by
  apply moderate.rounds_solidShare.toReal_le moderate.within_solidShare.finite (by decide)
  have unit : (2 : ℝ) ^ (40 : ℤ) * 2 ^ (-40 : ℤ) = 1 := by norm_num
  rw [div_le_iff₀ moderate.solidBulkModulus.pos]
  calc toReal (rock.biotCoefficient - rock.porosity)
    _ ≤ 2 ^ (40 : ℤ) * 2 ^ (-40 : ℤ) := unit ▸ moderate.excess_le_one
    _ ≤ 2 ^ (40 : ℤ) * toReal rock.solidBulkModulus :=
      mul_le_mul_of_nonneg_left moderate.solidBulkModulus.lower (zpow_nonneg two_pos.le _)

theorem within_fluidShare : Within (rock.porosity / rock.fluidBulkModulus) 40 :=
  moderate.porosity.div moderate.fluidBulkModulus (by norm_num) (by norm_num)

theorem fluidShare_nonneg : 0 ≤ toReal (rock.porosity / rock.fluidBulkModulus) :=
  toReal_div_nonneg moderate.porosity_nonneg moderate.fluidBulkModulus.pos.le

theorem within_biotModulus : Within rock.biotModulus 122 :=
  moderate.within_solidShare.add (moderate.within_fluidShare.mono (by norm_num)) (by norm_num)
    (by norm_num)

theorem rounds_biotModulus :
    Rounds .double rock.biotModulus
      (toReal ((rock.biotCoefficient - rock.porosity) / rock.solidBulkModulus) +
        toReal (rock.porosity / rock.fluidBulkModulus)) :=
  rounds_add moderate.within_solidShare.finite moderate.within_fluidShare.finite

theorem biotModulus_le : toReal rock.biotModulus ≤ 2 ^ (41 : ℤ) := by
  apply moderate.rounds_biotModulus.toReal_le moderate.within_biotModulus.finite (by decide)
  have solid := moderate.solidShare_le
  have fluid := (le_abs_self _).trans moderate.within_fluidShare.bound
  rw [show (41 : ℤ) = 40 + 1 by norm_num, two_zpow_add, zpow_one]
  linarith

theorem within_square : Within (rock.biotCoefficient * rock.biotCoefficient) 160 :=
  moderate.within_biotCoefficient.mul moderate.within_biotCoefficient (by norm_num) (by norm_num)

theorem square_nonneg : 0 ≤ toReal (rock.biotCoefficient * rock.biotCoefficient) := by
  have finite := moderate.within_biotCoefficient.finite
  exact (rounds_mul finite finite).toReal_nonneg moderate.within_square.finite (mul_self_nonneg _)

/-- What the pore fluid adds to the drained modulus. -/
theorem within_coupling :
    Within (rock.biotCoefficient * rock.biotCoefficient * rock.biotModulus) 282 :=
  moderate.within_square.mul moderate.within_biotModulus (by norm_num) (by norm_num)

theorem coupling_le :
    toReal (rock.biotCoefficient * rock.biotCoefficient * rock.biotModulus) ≤ 2 ^ (201 : ℤ) := by
  have square := moderate.within_square
  have modulus := moderate.within_biotModulus
  apply (rounds_mul square.finite modulus.finite).toReal_le moderate.within_coupling.finite (by decide)
  rw [show (201 : ℤ) = 160 + 41 by norm_num, two_zpow_add]
  calc toReal (rock.biotCoefficient * rock.biotCoefficient) * toReal rock.biotModulus
    _ ≤ toReal (rock.biotCoefficient * rock.biotCoefficient) * 2 ^ (41 : ℤ) :=
      mul_le_mul_of_nonneg_left moderate.biotModulus_le moderate.square_nonneg
    _ ≤ 2 ^ (160 : ℤ) * 2 ^ (41 : ℤ) :=
      mul_le_mul_of_nonneg_right ((le_abs_self _).trans square.bound) (zpow_nonneg two_pos.le _)

theorem within_undrainedBulkModulus : Within rock.undrainedBulkModulus 283 :=
  (moderate.drainedBulkModulus.within.mono (by norm_num)).add moderate.within_coupling (by norm_num)
    (by norm_num)

theorem rounds_undrainedBulkModulus :
    Rounds .double rock.undrainedBulkModulus
      (toReal rock.drainedBulkModulus +
        toReal (rock.biotCoefficient * rock.biotCoefficient * rock.biotModulus)) :=
  rounds_add moderate.drainedBulkModulus.finite moderate.within_coupling.finite

theorem undrainedBulkModulus_le : toReal rock.undrainedBulkModulus ≤ 2 ^ (202 : ℤ) := by
  apply moderate.rounds_undrainedBulkModulus.toReal_le moderate.within_undrainedBulkModulus.finite
    (by decide)
  have drained := moderate.drainedBulkModulus.upper.trans (two_zpow_le (show (40 : ℤ) ≤ 201 by norm_num))
  rw [show (202 : ℤ) = 201 + 1 by norm_num, two_zpow_add, zpow_one]
  linarith [moderate.coupling_le]

/-! ### Stiffness -/

/-- The part of the stiffness that the shear modulus has. -/
theorem spans_shearShare : Spans (4.0 * rock.shearModulus / 3.0) (-40) 41 :=
  ((spans_four.mul moderate.shearModulus (by norm_num) (by norm_num)).div spans_three (by norm_num)
    (by norm_num))

theorem within_stiffness : Within rock.stiffness 284 :=
  moderate.within_undrainedBulkModulus.add (moderate.spans_shearShare.within.mono (by norm_num))
    (by norm_num) (by norm_num)

theorem rounds_stiffness :
    Rounds .double rock.stiffness
      (toReal rock.undrainedBulkModulus + toReal (4.0 * rock.shearModulus / 3.0)) :=
  rounds_add moderate.within_undrainedBulkModulus.finite moderate.spans_shearShare.finite

theorem stiffness_le : toReal rock.stiffness ≤ 2 ^ (203 : ℤ) := by
  apply moderate.rounds_stiffness.toReal_le moderate.within_stiffness.finite (by decide)
  have shear := moderate.spans_shearShare.upper.trans (two_zpow_le (show (41 : ℤ) ≤ 202 by norm_num))
  rw [show (203 : ℤ) = 202 + 1 by norm_num, two_zpow_add, zpow_one]
  linarith [moderate.undrainedBulkModulus_le]

/-- A stiffness that is not zero is not tiny. -/
theorem le_abs_stiffness (nonzero : toReal rock.stiffness ≠ 0) : 2 ^ (-93 : ℤ) ≤ |toReal rock.stiffness| := by
  have shear := moderate.spans_shearShare
  have finite := moderate.within_stiffness.finite
  apply moderate.rounds_stiffness.le_abs_toReal finite (by decide)
  apply le_abs_add moderate.within_undrainedBulkModulus.finite shear.finite
    (shear.lower.trans (le_abs_self _))
  intro vanishes
  rw [moderate.rounds_stiffness.toReal_eq finite, vanishes, Format.rounded_zero] at nonzero
  exact nonzero rfl

/-! ### Density -/

/-- The share of the solid. -/
theorem rounds_solidFraction : Rounds .double (1.0 - rock.porosity) (1 - toReal rock.porosity) := by
  rw [← toReal_one]
  exact rounds_sub spans_one.finite moderate.porosity.finite

theorem within_solidFraction : Within (1.0 - rock.porosity) 0 := by
  apply moderate.rounds_solidFraction.within (by decide) (by decide)
  rw [zpow_zero, abs_le]
  constructor <;> linarith [moderate.porosity_nonneg, moderate.porosity_le_one]

theorem solidFraction_nonneg : 0 ≤ toReal (1.0 - rock.porosity) := by
  apply moderate.rounds_solidFraction.toReal_nonneg moderate.within_solidFraction.finite
  linarith [moderate.porosity_le_one]

theorem within_solidMass : Within (rock.solidDensity * (1.0 - rock.porosity)) 40 :=
  moderate.solidDensity.within.mul moderate.within_solidFraction (by norm_num) (by norm_num)

theorem within_fluidMass : Within (rock.fluidDensity * rock.porosity) 40 :=
  moderate.fluidDensity.within.mul moderate.porosity (by norm_num) (by norm_num)

/-- The solid or the fluid has half of the volume. -/
theorem half_le_mass :
    2 ^ (-41 : ℤ) ≤ toReal (rock.solidDensity * (1.0 - rock.porosity)) ∨
      2 ^ (-41 : ℤ) ≤ toReal (rock.fluidDensity * rock.porosity) := by
  have half : (2 : ℝ) ^ (-41 : ℤ) = 2 ^ (-40 : ℤ) * 2 ^ (-1 : ℤ) := by
    rw [← two_zpow_add]
    rfl
  rcases le_total (toReal rock.porosity) (1 / 2) with solid | fluid
  · left
    have share : 2 ^ (-1 : ℤ) ≤ toReal (1.0 - rock.porosity) := by
      apply moderate.rounds_solidFraction.le_toReal moderate.within_solidFraction.finite (by decide)
      norm_num
      linarith
    apply (rounds_mul moderate.solidDensity.finite moderate.within_solidFraction.finite).le_toReal
      moderate.within_solidMass.finite (by decide)
    rw [half]
    exact mul_le_mul moderate.solidDensity.lower share (zpow_nonneg two_pos.le _)
      moderate.solidDensity.pos.le
  · right
    apply (rounds_mul moderate.fluidDensity.finite moderate.porosity.finite).le_toReal
      moderate.within_fluidMass.finite (by decide)
    rw [half]
    apply mul_le_mul moderate.fluidDensity.lower _ (zpow_nonneg two_pos.le _) moderate.fluidDensity.pos.le
    norm_num
    linarith

theorem spans_bulkDensity : Spans rock.bulkDensity (-41) 41 := by
  have solid := moderate.within_solidMass
  have fluid := moderate.within_fluidMass
  have first : 0 ≤ toReal (rock.solidDensity * (1.0 - rock.porosity)) :=
    toReal_mul_nonneg moderate.solidDensity.pos.le moderate.solidFraction_nonneg
  have second : 0 ≤ toReal (rock.fluidDensity * rock.porosity) :=
    toReal_mul_nonneg moderate.fluidDensity.pos.le moderate.porosity_nonneg
  apply (rounds_add solid.finite fluid.finite).spans (by decide) (by decide)
  · rcases moderate.half_le_mass with much | much
    · exact much.trans (le_add_of_nonneg_right second)
    · exact much.trans (le_add_of_nonneg_left first)
  · rw [show (41 : ℤ) = 40 + 1 by norm_num, two_zpow_add, zpow_one]
    linarith [(le_abs_self _).trans solid.bound, (le_abs_self _).trans fluid.bound]

/-! ### Velocities -/

theorem spans_compressionalVelocity (stiff : 0 < toReal rock.stiffness) :
    Spans rock.compressionalVelocity (-67) 122 := by
  have least := moderate.le_abs_stiffness stiff.ne'
  rw [abs_of_pos stiff] at least
  have spans : Spans rock.stiffness (-93) 203 :=
    ⟨moderate.within_stiffness.finite, least, moderate.stiffness_le⟩
  have ratio : Spans (rock.stiffness / rock.bulkDensity) (2 * -67) (2 * 122) :=
    spans.div moderate.spans_bulkDensity (by norm_num) (by norm_num)
  exact ratio.sqrt (by norm_num) (by norm_num)

theorem spans_shearVelocity : Spans rock.shearVelocity (-41) 41 := by
  have ratio : Spans (rock.shearModulus / rock.bulkDensity) (2 * -41) (2 * 41) :=
    (moderate.shearModulus.div moderate.spans_bulkDensity (by norm_num) (by norm_num)).mono (by norm_num)
      (by norm_num)
  exact ratio.sqrt (by norm_num) (by norm_num)

theorem within_undrainedLame : Within rock.undrainedLame 284 :=
  moderate.within_undrainedBulkModulus.sub
    (((spans_two.mul moderate.shearModulus (by norm_num) (by norm_num)).div spans_three (by norm_num)
      (by norm_num)).within.mono (by norm_num)) (by norm_num) (by norm_num)

/-! ### Which properties are numbers -/

theorem rounds_ratio :
    Rounds .double (rock.stiffness / rock.bulkDensity)
      (toReal rock.stiffness / toReal rock.bulkDensity) :=
  rounds_div moderate.within_stiffness.finite moderate.spans_bulkDensity.finite
    moderate.spans_bulkDensity.pos.ne'

theorem within_ratio : Within (rock.stiffness / rock.bulkDensity) 325 :=
  moderate.within_stiffness.div moderate.spans_bulkDensity (by norm_num) (by norm_num)

/-- Without stiffness there is no velocity. -/
theorem compressionalVelocity_of_zero (vanishes : toReal rock.stiffness = 0) :
    rock.compressionalVelocity.isFinite = true ∧ toReal rock.compressionalVelocity = 0 := by
  have finite := moderate.within_ratio.finite
  have ratio : toReal (rock.stiffness / rock.bulkDensity) = 0 := by
    rw [moderate.rounds_ratio.toReal_eq finite, vanishes, zero_div, Format.rounded_zero]
  have rounds := rounds_sqrt finite ratio.ge
  rw [ratio, Real.sqrt_zero] at rounds
  have root := rounds.isFinite_of_abs_le (n := 0) (by decide) (by decide) (by norm_num)
  refine ⟨root, ?_⟩
  rw [compressionalVelocity, ← stiffness, rounds.toReal_eq root, Format.rounded_zero]

/-- With a negative stiffness the velocity is no number. -/
theorem isNaN_compressionalVelocity (soft : toReal rock.stiffness < 0) :
    rock.compressionalVelocity.isNaN = true := by
  have density := moderate.spans_bulkDensity
  have finite := moderate.within_ratio.finite
  have least := moderate.le_abs_stiffness soft.ne
  rw [abs_of_neg soft] at least
  apply isNaN_sqrt finite
  have below : toReal rock.stiffness / toReal rock.bulkDensity ≤ -2 ^ (-134 : ℤ) := by
    have split : (2 : ℝ) ^ (-93 : ℤ) = 2 ^ (-134 : ℤ) * 2 ^ (41 : ℤ) := by
      rw [← two_zpow_add]
      rfl
    have scaled : 2 ^ (-134 : ℤ) * toReal rock.bulkDensity ≤ 2 ^ (-134 : ℤ) * 2 ^ (41 : ℤ) :=
      mul_le_mul_of_nonneg_left density.upper (zpow_nonneg two_pos.le _)
    rw [div_le_iff₀ density.pos, neg_mul]
    rw [split] at least
    exact le_neg_of_le_neg (scaled.trans least)
  calc toReal (rock.stiffness / rock.bulkDensity)
    _ = Format.double.rounded (toReal rock.stiffness / toReal rock.bulkDensity) :=
      moderate.rounds_ratio.toReal_eq finite
    _ ≤ Format.double.rounded (-2 ^ (-134 : ℤ)) := Format.rounded_mono below
    _ = -2 ^ (-134 : ℤ) := by rw [Format.rounded_neg, Format.rounded_two_zpow (by decide)]
    _ < 0 := neg_neg_of_pos (zpow_pos two_pos _)

/-- Whether the compressional velocity is a number, the stiffness decides. -/
theorem isNaN_compressionalVelocity_iff :
    rock.compressionalVelocity.isNaN = true ↔ toReal rock.stiffness < 0 := by
  refine ⟨fun undefined => ?_, moderate.isNaN_compressionalVelocity⟩
  by_contra! stiff
  have number : rock.compressionalVelocity.isFinite = true := by
    rcases stiff.eq_or_lt with zero | positive
    · exact (moderate.compressionalVelocity_of_zero zero.symm).1
    · exact (moderate.spans_compressionalVelocity positive).finite
  rw [isNaN_eq_false_of_isFinite number] at undefined
  cases undefined

/-- All derived properties but the compressional velocity are finite. -/
theorem isFinite_value {output : DerivedProperty} (other : output ≠ .compressionalVelocity) :
    (rock.value output).isFinite = true := by
  cases output with
  | biotCoefficient => exact moderate.within_biotCoefficient.finite
  | biotModulus => exact moderate.within_biotModulus.finite
  | undrainedBulkModulus => exact moderate.within_undrainedBulkModulus.finite
  | bulkDensity => exact moderate.spans_bulkDensity.finite
  | compressionalVelocity => exact absurd rfl other
  | shearVelocity => exact moderate.spans_shearVelocity.finite
  | undrainedLame => exact moderate.within_undrainedLame.finite

/-- A rock whose Biot coefficient is not below its porosity is stiff: the pore fluid adds to the drained
modulus. -/
theorem stiffness_pos (coupled : toReal rock.porosity ≤ toReal rock.biotCoefficient) :
    0 < toReal rock.stiffness := by
  have excess : 0 ≤ toReal (rock.biotCoefficient - rock.porosity) :=
    moderate.rounds_excess.toReal_nonneg moderate.within_excess.finite (sub_nonneg.mpr coupled)
  have solid : 0 ≤ toReal ((rock.biotCoefficient - rock.porosity) / rock.solidBulkModulus) :=
    toReal_div_nonneg excess moderate.solidBulkModulus.pos.le
  have modulus : 0 ≤ toReal rock.biotModulus :=
    moderate.rounds_biotModulus.toReal_nonneg moderate.within_biotModulus.finite
      (add_nonneg solid moderate.fluidShare_nonneg)
  have coupling : 0 ≤ toReal (rock.biotCoefficient * rock.biotCoefficient * rock.biotModulus) :=
    toReal_mul_nonneg moderate.square_nonneg modulus
  have bulk : 0 ≤ toReal rock.undrainedBulkModulus :=
    moderate.rounds_undrainedBulkModulus.toReal_nonneg moderate.within_undrainedBulkModulus.finite
      (add_nonneg moderate.drainedBulkModulus.pos.le coupling)
  have least : 2 ^ (-40 : ℤ) ≤ toReal rock.stiffness := by
    apply moderate.rounds_stiffness.le_toReal moderate.within_stiffness.finite (by decide)
    exact moderate.spans_shearShare.lower.trans (le_add_of_nonneg_left bulk)
  exact (zpow_pos two_pos _).trans_le least

end Moderate

end RockTable

end WaveMedium
