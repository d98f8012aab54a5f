/-
Module: WaveMedium.Proofs.Absorption.Mask
Purpose: How low and how high the values of a mask are, from the strength of its layer over the spacing.
Main exports:
  Absorption.load, Absorption.accumulate_bounds, Absorption.accumulate_le_one, Absorption.sunk_corner
-/
import Mathlib
import WaveMedium.Proofs.Absorption.Profile
import WaveMedium.Proofs.Absorption.Ramp

namespace WaveMedium.Absorption

open Number

/-! ### The load of a layer -/

/-- The strength of the layer over the spacing of the axis of a row, in real numbers. -/
noncomputable def rowLoad (spacing : List Float) (row : Nat × Nat) : ℝ :=
  toReal coefficient / toReal (spacing.getD row.2 0.0)

/-- The strength of the layer over the spacing, summed over all axes. -/
noncomputable def load (spacing : List Float) : ℝ :=
  (spacing.map fun step => toReal coefficient / toReal step).sum

section Load

variable {spacing : List Float} {rows : List (Nat × Nat)}

theorem load_eq_sum (spacing : List Float) :
    load spacing = ∑ axis ∈ Finset.range spacing.length, rowLoad spacing (0, axis) := by
  have axes : spacing.map (fun step => toReal coefficient / toReal step) =
      (List.range spacing.length).map fun axis => rowLoad spacing (0, axis) := by
    refine List.ext_getElem (by simp) fun axis small _ => ?_
    rw [List.length_map] at small
    simp [rowLoad, small]
  rw [load, axes, ← List.sum_toFinset _ List.nodup_range, List.toFinset_range]

theorem sum_rowLoad_eq (apart : (rows.map (·.2)).Nodup) :
    (rows.map (rowLoad spacing)).sum = ∑ axis ∈ (rows.map (·.2)).toFinset, rowLoad spacing (0, axis) := by
  rw [List.sum_toFinset _ apart, List.map_map]
  rfl

/-- Rows of different axes bear no more than the whole load. -/
theorem sum_rowLoad_le (positive : ∀ step ∈ spacing, 0 < toReal step) (apart : (rows.map (·.2)).Nodup)
    (axes : ∀ row ∈ rows, row.2 < spacing.length) : (rows.map (rowLoad spacing)).sum ≤ load spacing := by
  rw [sum_rowLoad_eq apart, load_eq_sum]
  apply Finset.sum_le_sum_of_subset_of_nonneg
  · intro axis member
    obtain ⟨row, present, rfl⟩ := List.mem_map.mp (List.mem_toFinset.mp member)
    exact Finset.mem_range.mpr (axes row present)
  · intro axis member _
    have small := Finset.mem_range.mp member
    have step : spacing.getD axis 0.0 ∈ spacing := by simp [small]
    exact div_nonneg spans_coefficient.pos.le (positive _ step).le

end Load

/-! ### One share -/

section Share

variable {width : ℕ} {spacing : List Float} {row : ℕ × ℕ}

/-- A row of a layer whose width can be counted, on an axis with a positive spacing. -/
structure Sound (width : ℕ) (spacing : List Float) (row : ℕ × ℕ) : Prop where
  inside : row.1 < width
  counted : width ≤ 2 ^ 64
  finite : (spacing.getD row.2 0.0).isFinite = true
  positive : 0 < toReal (spacing.getD row.2 0.0)

variable (sound : Sound width spacing row)
include sound

theorem rowLoad_nonneg : 0 ≤ rowLoad spacing row := div_nonneg spans_coefficient.pos.le sound.positive.le

theorem rounds_share :
    Rounds .double (share .mask width spacing row)
      (-toReal (ramp row.1 width) / toReal (spacing.getD row.2 0.0)) := by
  obtain ⟨finite, value⟩ := neg_spec (rounds_ramp sound.inside sound.counted).1
  rw [← value]
  exact rounds_div finite sound.finite sound.positive.ne'

/-- The quotient that is rounded to a share, between its load and zero. -/
theorem exact_share_bounds :
    -(rowLoad spacing row * (1 + 1 / 2 ^ 47)) ≤ -toReal (ramp row.1 width) / toReal (spacing.getD row.2 0.0) ∧
      -toReal (ramp row.1 width) / toReal (spacing.getD row.2 0.0) ≤ rowLoad spacing row / 2 ^ 74 := by
  obtain ⟨low, high⟩ := ramp_bounds sound.inside sound.counted
  have positive := sound.positive
  have least := spans_coefficient.lower
  unfold rowLoad
  rw [div_mul_eq_mul_div, ← neg_div, div_right_comm]
  constructor
  · apply div_le_div_of_nonneg_right _ positive.le
    linarith
  · apply div_le_div_of_nonneg_right _ positive.le
    norm_num at low least ⊢
    linarith

/-- What a row takes from the mask is at most its load, and hardly below zero, up to rounding. -/
theorem share_bounds (light : rowLoad spacing row ≤ 2) :
    (share .mask width spacing row).isFinite = true ∧
      -rowLoad spacing row - 1 / 2 ^ 45 ≤ toReal (share .mask width spacing row) ∧
      toReal (share .mask width spacing row) ≤ 1 / 2 ^ 70 := by
  have start := rowLoad_nonneg sound
  have rounds := rounds_share sound
  obtain ⟨low, high⟩ := exact_share_bounds sound
  generalize -toReal (ramp row.1 width) / toReal (spacing.getD row.2 0.0) = r at *
  have size : |r| ≤ 3 := by
    rw [abs_le]
    constructor <;> linarith
  have finite := rounds.isFinite_of_abs_le (n := 2) (by decide) (by decide) (size.trans (by norm_num))
  have error := abs_le.mp (abs_rounded_sub_le_of_le (size.trans (by norm_num)))
  have most := rounded_le_of_le (by positivity : (0 : ℝ) ≤ 1 / 2 ^ 73) (high.trans (by linarith))
  rw [rounds.toReal_eq finite]
  refine ⟨finite, by linarith, most.trans (by norm_num)⟩

end Share

/-! ### Light layers -/

section Light

variable {width : ℕ} {spacing : List Float}

/-- One row of a light layer keeps the mask between what is left and one. -/
theorem add_share_bounds {row : ℕ × ℕ} (sound : Sound width spacing row) {value : Float} {least : ℝ}
    (finite : value.isFinite = true) (lower : least ≤ toReal value) (upper : toReal value ≤ 1)
    (light : rowLoad spacing row ≤ least + 1) :
    (value + share .mask width spacing row).isFinite = true ∧
      least - rowLoad spacing row - 1 / 2 ^ 44 ≤ toReal (value + share .mask width spacing row) ∧
      toReal (value + share .mask width spacing row) ≤ 1 := by
  obtain ⟨shared, low, high⟩ := share_bounds sound (by linarith)
  have rounds := rounds_add finite shared
  have size : |toReal value + toReal (share .mask width spacing row)| ≤ 3 := by
    rw [abs_le]
    constructor <;> linarith
  have sum := rounds.isFinite_of_abs_le (n := 2) (by decide) (by decide) (size.trans (by norm_num))
  have error := abs_le.mp (abs_rounded_sub_le_of_le (size.trans (by norm_num)))
  rw [rounds.toReal_eq sum]
  exact ⟨sum, by linarith, rounded_le_one (by linarith)⟩

/-- All rows of a light layer.  Each one takes its load, and rounding a little more. -/
theorem foldl_share_bounds {rows : List (ℕ × ℕ)} (sound : ∀ row ∈ rows, Sound width spacing row) {value : Float}
    {least : ℝ} (finite : value.isFinite = true) (lower : least ≤ toReal value) (upper : toReal value ≤ 1)
    (light : (rows.map (rowLoad spacing)).sum + rows.length / 2 ^ 44 ≤ least + 1) :
    (rows.foldl (fun sum row => sum + share .mask width spacing row) value).isFinite = true ∧
      least - (rows.map (rowLoad spacing)).sum - rows.length / 2 ^ 44 ≤
        toReal (rows.foldl (fun sum row => sum + share .mask width spacing row) value) ∧
      toReal (rows.foldl (fun sum row => sum + share .mask width spacing row) value) ≤ 1 := by
  induction rows generalizing value least with
  | nil => simp [finite, lower, upper]
  | cons row rows ih =>
      have first := sound row (List.mem_cons_self ..)
      have others := fun row member => sound row (List.mem_cons_of_mem _ member)
      have rest : 0 ≤ (rows.map (rowLoad spacing)).sum := by
        refine List.sum_nonneg fun part member => ?_
        obtain ⟨other, present, rfl⟩ := List.mem_map.mp member
        exact rowLoad_nonneg (others other present)
      rw [List.map_cons, List.sum_cons, List.length_cons, Nat.cast_succ] at light ⊢
      rw [List.foldl_cons]
      have count : (0 : ℝ) ≤ rows.length / 2 ^ 44 := by positivity
      rw [add_div] at light ⊢
      obtain ⟨sum, low, high⟩ := add_share_bounds first finite lower upper (by linarith)
      obtain ⟨total, least, most⟩ := ih others sum low high (by linarith)
      exact ⟨total, by linarith, most⟩

end Light

/-! ### Layers that are not very wide -/

/-- No row of a layer that is not very wide raises the mask. -/
theorem share_nonpos {width : ℕ} {spacing : List Float} {row : ℕ × ℕ} (sound : Sound width spacing row)
    (narrow : width ≤ 2 ^ 26) : share .mask width spacing row ≤ 0.0 := by
  apply (rounds_share sound).mono rounds_zero_literal
  rw [neg_div, neg_nonpos]
  exact div_nonneg (ramp_nonneg sound.inside sound.counted narrow) sound.positive.le

theorem foldl_share_le {width : ℕ} {spacing : List Float} {rows : List (ℕ × ℕ)}
    (sound : ∀ row ∈ rows, Sound width spacing row) (narrow : width ≤ 2 ^ 26) {value bound : Float}
    (finite : bound.isFinite = true) (le : value ≤ bound) :
    rows.foldl (fun sum row => sum + share .mask width spacing row) value ≤ bound := by
  induction rows generalizing value with
  | nil => exact le
  | cons row rows ih =>
      have others := fun row member => sound row (List.mem_cons_of_mem _ member)
      have first := share_nonpos (sound row (List.mem_cons_self ..)) narrow
      exact ih others (add_le_of_nonpos finite le first)

/-! ### Heavy layers -/

/-- A value of the mask that is at most a bound, or so low that no share can bring it back. -/
def Sunk (value : Float) (bound : ℝ) : Prop :=
  value ≤ -1.0 ∨ value.isFinite = true ∧ toReal value ≤ bound

section Heavy

variable {width : ℕ} {spacing : List Float}

theorem minus_one_spec : (-1.0 : Float).isFinite = true ∧ toReal (-1.0) = -1 := by
  rw [← toReal_one]
  exact neg_spec spans_one.finite

/-- The quotient that is rounded to the share of an outermost row is nearly its load. -/
theorem exact_share_le {row : ℕ × ℕ} (sound : Sound width spacing row) (outermost : row.1 = 0) :
    -toReal (ramp row.1 width) / toReal (spacing.getD row.2 0.0) ≤
      -(rowLoad spacing row * (1 - 1 / 2 ^ 47)) := by
  have full := le_ramp_zero (Nat.zero_lt_of_lt sound.inside) sound.counted
  unfold rowLoad
  rw [outermost, div_mul_eq_mul_div, ← neg_div]
  exact div_le_div_of_nonneg_right (neg_le_neg full) sound.positive.le

/-- A share that does not take a sum below minus one is not large, and neither are the errors of rounding. -/
theorem rounded_sum_le {v r weight bound : ℝ} (upper : v ≤ bound) (small : bound ≤ 2) (start : 0 ≤ weight)
    (part : r ≤ -(weight * (1 - 1 / 2 ^ 47))) (total : -1 < v + Format.double.rounded r) :
    |v + Format.double.rounded r| ≤ 2 ∧
      Format.double.rounded (v + Format.double.rounded r) ≤ bound - weight + 1 / 2 ^ 44 := by
  have nonpos : r ≤ 0 := part.trans (neg_nonpos.mpr (mul_nonneg start (by norm_num)))
  have below : Format.double.rounded r ≤ 0 := (Format.rounded_mono nonpos).trans_eq (by simp)
  have shallow : -2 ^ (2 : ℤ) < r := by
    by_contra low
    have fallen : Format.double.rounded r ≤ Format.double.rounded (-2 ^ (2 : ℤ)) :=
      Format.rounded_mono (not_lt.mp low)
    rw [Format.rounded_neg, Format.rounded_two_zpow (by decide)] at fallen
    norm_num at fallen
    linarith
  norm_num at shallow
  have quotient := abs_le.mp (abs_rounded_sub_le_of_le (r := r) (by
    rw [abs_le]
    constructor <;> linarith))
  have size : |v + Format.double.rounded r| ≤ 2 := by
    rw [abs_le]
    constructor <;> linarith
  have error := abs_le.mp (abs_rounded_sub_le_of_le (size.trans (by norm_num)))
  exact ⟨size, by linarith⟩

/-- An outermost row takes nearly its whole load, or the mask sinks. -/
theorem sunk_add_share {row : ℕ × ℕ} (sound : Sound width spacing row) (outermost : row.1 = 0) {value : Float}
    {bound : ℝ} (small : bound ≤ 2) (sunk : Sunk value bound) :
    Sunk (value + share .mask width spacing row) (bound - rowLoad spacing row + 1 / 2 ^ 44) := by
  have weight := rowLoad_nonneg sound
  have rounds := rounds_share sound
  have part := exact_share_le sound outermost
  have start : 0 ≤ rowLoad spacing row * (1 - 1 / 2 ^ 47) := mul_nonneg weight (by norm_num)
  have below : share .mask width spacing row ≤ 0.0 := rounds.mono rounds_zero_literal (by linarith)
  obtain ⟨lowest, minus_one⟩ := minus_one_spec
  by_cases deep : value ≤ -1.0
  · exact .inl (add_le_of_nonpos lowest deep below)
  obtain ⟨finite, upper⟩ := sunk.resolve_left deep
  rcases isFinite_or_eq_negativeInfinity below zero_spec.1 with shared | endless
  · have sum := rounds_add finite shared
    rw [rounds.toReal_eq shared] at sum
    by_cases total : toReal value + Format.double.rounded
        (-toReal (ramp row.1 width) / toReal (spacing.getD row.2 0.0)) ≤ -1
    · left
      apply sum.mono (rounds_self lowest)
      rwa [minus_one]
    · right
      obtain ⟨size, taken⟩ := rounded_sum_le upper small weight part (not_le.mp total)
      have bounded := sum.isFinite_of_abs_le (n := 1) (by decide) (by decide) (size.trans_eq (zpow_one 2).symm)
      exact ⟨bounded, (sum.toReal_eq bounded).trans_le taken⟩
  · left
    rw [endless, (negativeInfinity_add (.inl finite)).2]
    exact negativeInfinity_le (isNaN_eq_false_of_isFinite lowest)

/-- Outermost rows alone.  Each one takes nearly its whole load, or the mask sinks. -/
theorem sunk_foldl {rows : List (ℕ × ℕ)} (sound : ∀ row ∈ rows, Sound width spacing row)
    (outermost : ∀ row ∈ rows, row.1 = 0) {value : Float} {bound : ℝ}
    (small : bound + rows.length / 2 ^ 44 ≤ 2) (sunk : Sunk value bound) :
    Sunk (rows.foldl (fun sum row => sum + share .mask width spacing row) value)
      (bound - (rows.map (rowLoad spacing)).sum + rows.length / 2 ^ 44) := by
  induction rows generalizing value bound with
  | nil => simpa using sunk
  | cons row rows ih =>
      have here := List.mem_cons_self (a := row) (l := rows)
      have first := sound row here
      have weight := rowLoad_nonneg first
      have count : (0 : ℝ) ≤ rows.length / 2 ^ 44 := div_nonneg (Nat.cast_nonneg _) (by norm_num)
      rw [List.length_cons, Nat.cast_succ, add_div] at small ⊢
      have next := sunk_add_share first (outermost row here) (by linarith) sunk
      have rest := ih (fun other member => sound other (List.mem_cons_of_mem _ member))
        (fun other member => outermost other (List.mem_cons_of_mem _ member)) (by linarith) next
      rw [List.foldl_cons, List.map_cons, List.sum_cons]
      convert rest using 1
      ring

end Heavy

/-! ### The cells of a mask -/

theorem length_layerRows_le (shape : List ℕ) (width : ℕ) (index : List ℕ) :
    (layerRows shape width index).length ≤ shape.length := by
  rw [layerRows, List.length_mergeSort]
  refine (List.length_filter_le _ _).trans ?_
  rw [List.length_zipIdx, faceDistances, List.length_zipWith]
  exact Nat.min_le_left _ _

/-- The first cell of a box stands on the outermost row of every axis. -/
theorem mem_layerRows_corner {shape : List ℕ} {width distance axis : ℕ} (positive : 0 < width) :
    (distance, axis) ∈ layerRows shape width (shape.map fun _ => 0) ↔ distance = 0 ∧ axis < shape.length := by
  have outermost : faceDistances shape (shape.map fun _ => 0) = shape.map fun _ => 0 := by
    induction shape with
    | nil => rfl
    | cons n shape ih => simpa [faceDistances] using ih
  rw [mem_layerRows, outermost, List.getElem?_map, Option.map_eq_some_iff]
  constructor
  · rintro ⟨⟨n, found, rfl⟩, _⟩
    exact ⟨rfl, (List.getElem?_eq_some_iff.mp found).1⟩
  · rintro ⟨rfl, small⟩
    exact ⟨⟨_, List.getElem?_eq_getElem small, rfl⟩, positive⟩

section Cells

variable {shape : List ℕ} {width : ℕ} {spacing : List Float} (counted : width ≤ 2 ^ 64)
  (axes : spacing.length = shape.length)
  (steps : ∀ step ∈ spacing, step.isFinite = true ∧ 0 < toReal step)
include counted axes steps

/-- The rows of a cell are sound where the layer can be counted and the spacing is positive. -/
theorem sound_of_mem_layerRows (index : List ℕ) :
    ∀ row ∈ layerRows shape width index, Sound width spacing row ∧ row.2 < spacing.length := by
  rintro ⟨distance, axis⟩ member
  obtain ⟨found, inside⟩ := mem_layerRows.mp member
  obtain ⟨small, _⟩ := List.getElem?_eq_some_iff.mp found
  rw [faceDistances, List.length_zipWith] at small
  have ranked : axis < spacing.length := by omega
  have step := steps (spacing.getD axis 0.0) (by simp [ranked])
  exact ⟨⟨inside, counted, step.1, step.2⟩, ranked⟩

/-- Where the whole load is below one by more than rounding takes, no value of the mask is below zero or above
one. -/
theorem accumulate_bounds (rank : shape.length ≤ 3) (light : load spacing + 3 / 2 ^ 44 ≤ 1) (index : List ℕ) :
    (accumulate .mask width spacing (layerRows shape width index)).isFinite = true ∧
      0 ≤ toReal (accumulate .mask width spacing (layerRows shape width index)) ∧
      toReal (accumulate .mask width spacing (layerRows shape width index)) ≤ 1 := by
  have rows := sound_of_mem_layerRows counted axes steps index
  have part := sum_rowLoad_le (fun step member => (steps step member).2)
    (nodup_axes_layerRows shape width index) fun row member => (rows row member).2
  have few : ((layerRows shape width index).length : ℝ) ≤ 3 := by
    exact_mod_cast (length_layerRows_le shape width index).trans rank
  obtain ⟨finite, low, high⟩ := foldl_share_bounds (fun row member => (rows row member).1) spans_one.finite
    toReal_one.ge toReal_one.le (by linarith)
  refine ⟨finite, le_trans ?_ low, high⟩
  linarith

/-- No value of the mask of a layer that is not very wide is above one. -/
theorem accumulate_le_one (narrow : width ≤ 2 ^ 26) (index : List ℕ) :
    accumulate .mask width spacing (layerRows shape width index) ≤ 1.0 := by
  have rows := sound_of_mem_layerRows counted axes steps index
  have finite := spans_one.finite
  exact foldl_share_le (fun row member => (rows row member).1) narrow finite
    (le_self (isNaN_eq_false_of_isFinite finite))

/-- The first cell bears the whole load. -/
theorem sunk_corner (rank : shape.length ≤ 3) (positive : 0 < width) :
    Sunk (accumulate .mask width spacing (layerRows shape width (shape.map fun _ => 0)))
      (1 - load spacing + 3 / 2 ^ 44) := by
  have rows := sound_of_mem_layerRows counted axes steps (shape.map fun _ => 0)
  have few : ((layerRows shape width (shape.map fun _ => 0)).length : ℝ) ≤ 3 := by
    exact_mod_cast (length_layerRows_le shape width _).trans rank
  have whole : ((layerRows shape width (shape.map fun _ => 0)).map (rowLoad spacing)).sum = load spacing := by
    rw [sum_rowLoad_eq (nodup_axes_layerRows ..), load_eq_sum]
    congr 1
    ext axis
    rw [List.mem_toFinset, Finset.mem_range, axes, List.mem_map]
    constructor
    · rintro ⟨⟨distance, _⟩, member, rfl⟩
      exact ((mem_layerRows_corner positive).mp member).2
    · intro small
      exact ⟨(0, axis), (mem_layerRows_corner positive).mpr ⟨rfl, small⟩, rfl⟩
  have start : Sunk 1.0 1 := .inr ⟨spans_one.finite, toReal_one.le⟩
  have sunk := sunk_foldl (fun row member => (rows row member).1)
    (fun row member => ((mem_layerRows_corner positive).mp member).1) (by linarith) start
  rw [whole] at sunk
  exact sunk.imp_right fun ⟨finite, upper⟩ => ⟨finite, upper.trans (by linarith)⟩

end Cells

end WaveMedium.Absorption
