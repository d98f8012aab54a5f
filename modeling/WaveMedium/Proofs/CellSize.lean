/-
Module: WaveMedium.Proofs.CellSize
Purpose: How far the cells of a supplied grid may differ from the spacing of the layout that accepts it.
Main exports:
  axis_error, Grid.Spaced, CellNear, Geometry.allClose_iff, Geometry.new_withSpacing,
  Geometry.cells_of_accepted
-/
import Mathlib
import WaveMedium.Proofs.Acceptance
import WaveMedium.Proofs.Number.Agreement
import WaveMedium.Proofs.Number.Count
import WaveMedium.Proofs.Spacing

namespace WaveMedium

open Number

namespace Number

/-! ### Errors over a whole axis -/

section Axis

-- An axis of `k` cells, which are counted as `c`, has the spacing `h` and the computed length `E`.  The supplied
-- length `X` is divided into cells of the size `q`.
variable {h k c E X q : ℝ}

/-- A number of cells is counted by a double nearly as large. -/
theorem count_bounds (least : 1 ≤ k) (count : |c - k| ≤ |k| / 2 ^ 53 + 1 / 2 ^ 250) :
    c ≤ k * (1 + 1 / 2 ^ 52) ∧ k ≤ c * (1 + 2 / 2 ^ 52) ∧ 0 < c := by
  rw [abs_of_nonneg (zero_le_one.trans least)] at count
  obtain ⟨lower, upper⟩ := abs_le.mp count
  norm_num at lower upper ⊢
  refine ⟨?_, ?_, ?_⟩ <;> linarith

/-- A length that is computed from a spacing is nearly exact, and hardly above the exact one. -/
theorem length_bounds (step : 0 < h) (least : 1 ≤ k) (count : |c - k| ≤ |k| / 2 ^ 53 + 1 / 2 ^ 250)
    (length : |E - h * c| ≤ |h * c| / 2 ^ 53 + 1 / 2 ^ 250) :
    |E - h * c| ≤ 1 / 2 ^ 52 * max (h * k) 1 ∧ max |E| 1 ≤ (1 + 2 / 2 ^ 52) * max (h * k) 1 := by
  obtain ⟨upper, _, positive⟩ := count_bounds least count
  have whole : h * k ≤ max (h * k) 1 := le_max_left _ _
  have unit : 1 ≤ max (h * k) 1 := le_max_right _ _
  have long : h * c ≤ h * k * (1 + 1 / 2 ^ 52) := by
    rw [mul_assoc]
    exact mul_le_mul_of_nonneg_left upper step.le
  have exact : |h * c| = h * c := abs_of_pos (mul_pos step positive)
  have size : |E| ≤ |E - h * c| + |h * c| := by
    simpa using abs_add_le (E - h * c) (h * c)
  rw [exact] at length size
  generalize max (h * k) 1 = M at *
  generalize |E - h * c| = d at *
  constructor
  · norm_num at length long ⊢
    linarith
  · apply max_le
    · norm_num at length long ⊢
      linarith
    · norm_num
      linarith

/-- Multiplied by the count again, a cell size gives nearly the length that was divided. -/
theorem abs_mul_sub_le (positive : 0 < c) (cell : |q - X / c| ≤ |X / c| / 2 ^ 53 + 1 / 2 ^ 250) :
    |q * c - X| ≤ |X| / 2 ^ 53 + 1 / 2 ^ 250 * c := by
  have product : q * c - X = (q - X / c) * c := by field_simp
  have quotient : |X / c| * c = |X| := by
    rw [abs_div, abs_of_pos positive, div_mul_cancel₀ _ positive.ne']
  have scaled := mul_le_mul_of_nonneg_right cell positive.le
  rw [add_mul, div_mul_eq_mul_div, quotient] at scaled
  rwa [product, abs_mul, abs_of_pos positive]

/-- The error of a cell size over a whole axis: a length is computed from a spacing, another length that agrees
with it is supplied, and that is divided by the number of cells. -/
theorem axis_error (step : 0 < h) (least : 1 ≤ k) (few : k ≤ 2 ^ 64)
    (count : |c - k| ≤ |k| / 2 ^ 53 + 1 / 2 ^ 250)
    (length : |E - h * c| ≤ |h * c| / 2 ^ 53 + 1 / 2 ^ 250)
    (agree : |X - E| ≤ (1 / 10 ^ 9 + 1 / 10 ^ 24) * max |E| 1)
    (cell : |q - X / c| ≤ |X / c| / 2 ^ 53 + 1 / 2 ^ 250) :
    |q - h| * k ≤ (1 / 10 ^ 9 + 1 / 10 ^ 14) * max (h * k) 1 := by
  obtain ⟨upper, lower, positive⟩ := count_bounds least count
  obtain ⟨computed, size⟩ := length_bounds step least count length
  have unit : 1 ≤ max (h * k) 1 := le_max_right _ _
  have supplied : |X| ≤ |X - E| + max |E| 1 := by
    have triangle := abs_add_le (X - E) E
    rw [sub_add_cancel] at triangle
    linarith [le_max_left |E| 1]
  have divided := abs_mul_sub_le positive cell
  have total : |q - h| * c ≤ |q * c - X| + |X - E| + |E - h * c| := by
    have parts : (q - h) * c = (q * c - X) + (X - E) + (E - h * c) := by ring
    rw [← abs_of_pos positive, ← abs_mul, parts, abs_of_pos positive]
    exact abs_add_three _ _ _
  have back : |q - h| * k ≤ |q - h| * c * (1 + 2 / 2 ^ 52) := by
    rw [mul_assoc]
    exact mul_le_mul_of_nonneg_left lower (abs_nonneg _)
  generalize max (h * k) 1 = M at *
  generalize max |E| 1 = L at *
  generalize |q - h| * k = e at *
  generalize |q - h| * c = f at *
  -- The errors of the three steps add up, and what is left is linear in their bounds.
  norm_num at few upper agree computed size supplied divided back ⊢
  linarith

end Axis

end Number

/-! ### One axis -/

/-- The distances of the points of a grid are those that follow from its lengths. -/
def Grid.Spaced (grid : Grid Float) : Prop :=
  grid.spacing = List.zipWith Grid.cellSize grid.extent grid.shape

/-- So are those of every grid that is put together. -/
theorem Grid.spaced_of_new {extent origin : List Float} {shape : List Nat} {precision : Precision}
    {interior : Region} {grid : Grid Float}
    (made : Grid.new extent shape origin precision interior = .ok grid) : grid.Spaced := by
  unfold Grid.new at made
  split at made
  · cases made
  · cases made
    rfl

/-- A cell size lies at a spacing.  Over an axis of `n` points the two differ by little more than the
tolerance for lengths, and by at most a part in a million if the axis is longer than a thousandth. -/
structure CellNear (cell step : Float) (n : Nat) : Prop where
  finite : cell.isFinite = true
  axis : |toReal cell - toReal step| * (n - 1 : ℕ) ≤
    (1 / 10 ^ 9 + 1 / 10 ^ 14) * max (toReal step * (n - 1 : ℕ)) 1
  relative : 1001 / 10 ^ 6 ≤ toReal step * (n - 1 : ℕ) →
    |toReal cell - toReal step| ≤ toReal step / 10 ^ 6

/-- From a thousandth on the error over an axis is a small part of each of its cells. -/
theorem relative_of_axis {d h k : ℝ} (least : 1 ≤ k)
    (axis : d * k ≤ (1 / 10 ^ 9 + 1 / 10 ^ 14) * max (h * k) 1) (long : 1001 / 10 ^ 6 ≤ h * k) :
    d ≤ h / 10 ^ 6 := by
  have positive : 0 < k := zero_lt_one.trans_le least
  refine le_of_mul_le_mul_right (axis.trans ?_) positive
  rw [div_mul_eq_mul_div]
  rcases max_cases (h * k) 1 with ⟨same, _⟩ | ⟨same, _⟩
  · rw [same]
    norm_num at long ⊢
    linarith
  · rw [same]
    norm_num at long ⊢
    linarith

/-- A length that agrees with that of an axis has cells of the size of the spacing. -/
theorem CellNear.of_close {step extent : Float} {n : Nat} (finite : step.isFinite = true)
    (positive : 0 < toReal step) (several : 1 < n) (few : n < sizeLimit)
    (bounded : (step * Scalar.ofNat (n - 1)).isFinite = true)
    (close : Scalar.close extent (step * Scalar.ofNat (n - 1)) = true) :
    CellNear (Grid.cellSize extent n) step n := by
  have one : (1 : ℝ) ≤ (n - 1 : ℕ) := Nat.one_le_cast.mpr (by omega)
  have most : ((n - 1 : ℕ) : ℝ) ≤ 2 ^ 64 := by
    have below : n - 1 ≤ 2 ^ 64 := (Nat.sub_le n 1).trans few.le
    exact_mod_cast below
  have count : Rounds .double (Scalar.ofNat (n - 1) : Float) (n - 1 : ℕ) := rounds_ofNat (n - 1)
  have counted := count.spans (l := 0) (u := 64) (by decide) (by decide) (by simpa using one)
    (by exact_mod_cast most)
  obtain ⟨left, apart⟩ := isFinite_of_close bounded close
  have length := rounds_mul finite counted.finite
  have divided := rounds_div left counted.finite counted.pos.ne'
  have quotient : (extent / Scalar.ofNat (n - 1)).isFinite = true := by
    apply divided.isFinite_of_abs_le_toReal left
    have whole : 1 ≤ toReal (Scalar.ofNat (n - 1)) := by simpa using counted.lower
    rw [abs_div, abs_of_pos counted.pos]
    exact div_le_self (abs_nonneg _) whole
  have axis := axis_error positive one most (count.abs_toReal_sub_le counted.finite)
    (length.abs_toReal_sub_le bounded) (abs_sub_le_of_close left bounded apart close)
    (divided.abs_toReal_sub_le quotient)
  rw [Grid.cellSize, if_pos several]
  exact ⟨quotient, axis, relative_of_axis one axis⟩

/-! ### Accepted grids -/

namespace Geometry

variable {layout : Layout Float} {grid : Grid Float} {geometry : Geometry Float}

/-- Lists agree if they are equally long and agree at every place. -/
theorem allClose_iff {found expected : List Float} :
    allClose found expected = true ↔
      found.length = expected.length ∧
        ∀ (axis : Nat) (a b : Float), found[axis]? = some a → expected[axis]? = some b →
          Scalar.close a b = true := by
  simp only [allClose, Bool.and_eq_true, beq_iff_eq, List.all_eq_true, Prod.forall,
    List.mem_iff_getElem?, List.getElem?_zip_eq_some]
  refine and_congr_right fun _ => ⟨fun each axis a b left right => each a b ⟨axis, left, right⟩, ?_⟩
  rintro each a b ⟨axis, left, right⟩
  exact each axis a b left right

/-- The distances of the points are not compared: a grid that is accepted would be accepted with any others. -/
theorem new_withSpacing (built : Geometry.new layout (some grid) = .ok geometry)
    (spacing : List Float) :
    Geometry.new layout (some { grid with spacing := spacing }) =
      .ok (layout.geometryOn { grid with spacing := spacing }) := by
  have same : layout.difference? { grid with spacing := spacing } = none := (of_new_some built).1
  rw [new_some_eq (valid_of_new built) (counted_of_new built), same]

/-- The distances of the points of an accepted grid, which follow from its lengths, are those that the layout
asks for, on every axis of more than one point and finite length. -/
theorem cells_of_accepted (built : Geometry.new layout (some grid) = .ok geometry)
    (spaced : grid.Spaced) :
    grid.spacing.length = layout.shape.length ∧
      ∀ (axis n : Nat) (step cell : Float), grid.shape[axis]? = some n →
        layout.spacing[axis]? = some step → grid.spacing[axis]? = some cell → 1 < n →
        (step * Scalar.ofNat (n - 1)).isFinite = true → CellNear cell step n := by
  have valid := valid_of_new built
  have counted := counted_of_new built
  obtain ⟨⟨_, axes⟩, _, _, sound⟩ := Layout.validate_eq_ok_iff.mp valid
  obtain ⟨shape, extents, _, _⟩ := difference?_eq_none_iff.mp (of_new_some built).1
  obtain ⟨lengths, agree⟩ := allClose_iff.mp extents
  constructor
  · rw [spaced, shape, List.length_zipWith, lengths]
    simp [Layout.paddedExtent, axes]
  · intro axis n step cell points asked held several bounded
    rw [spaced, List.getElem?_zipWith_eq_some] at held
    obtain ⟨extent, _, long, same, rfl⟩ := held
    obtain rfl := Option.some.inj (points.symm.trans same)
    have expected : layout.paddedExtent[axis]? = some (step * Scalar.ofNat (n - 1)) := by
      rw [Layout.paddedExtent, List.getElem?_zipWith_eq_some]
      exact ⟨n, step, shape ▸ points, asked, rfl⟩
    have few : n < sizeLimit := counted n (shape ▸ List.mem_of_getElem? points)
    obtain ⟨finite, positive⟩ := Layout.toReal_pos_of_badStep (Bool.eq_false_of_not_eq_true
      (List.any_eq_false.mp sound step (List.mem_of_getElem? asked)))
    exact CellNear.of_close finite positive several few bounded (agree axis _ _ long expected)

/-- Two points so close that the tolerance for lengths is as large as their distance. -/
def denseLine : Layout Float where
  origin := [0.0]
  spacing := [1e-9]
  shape := [2]
  layer := 0
  precision := .double

/-- The short line with a grid that is a little longer and with its own, and the dense line with one that is
longer by half, evaluated. -/
theorem accepted_evaluated :
    (Grid.new [30.00000001] [4] [-10.0] .double ⟨[⟨1, 3⟩]⟩).toOption.map (fun grid =>
        ((Geometry.new shortLine (some grid)).toBool, grid.shape)) = some (true, [4]) ∧
      (Geometry.new shortLine (some shortLine.ownGrid)).toBool = true ∧
      (Grid.new [1.5e-9] [2] [0.0] .double ⟨[⟨0, 2⟩]⟩).toOption.map (fun grid =>
        ((Geometry.new denseLine (some grid)).toBool, grid.spacing)) = some (true, [1.5e-9]) := by
  decide +kernel

/-- Four points at a distance of ten are thirty long, and a little more in a supplied grid. -/
theorem cells_of_accepted_shortLine :
    ∃ grid geometry,
      Grid.new [30.00000001] [4] [-10.0] .double ⟨[⟨1, 3⟩]⟩ = .ok grid ∧
        Geometry.new shortLine (some grid) = .ok geometry ∧ grid.spacing.length = 1 ∧
        ∀ cell, grid.spacing[0]? = some cell → CellNear cell 10.0 4 := by
  obtain ⟨grid, made, facts⟩ := exists_of_map_toOption accepted_evaluated.1
  obtain ⟨succeeds, shape⟩ := Prod.mk.inj facts
  obtain ⟨geometry, built⟩ := exists_eq_ok_of_toBool succeeds
  obtain ⟨rank, near⟩ := cells_of_accepted built (Grid.spaced_of_new made)
  refine ⟨grid, geometry, made, built, rank, fun cell held => ?_⟩
  exact near 0 4 10.0 cell (by rw [shape]; rfl) rfl held (by decide) (by decide)

/-- A grid with cells of any size is accepted if they do not follow from its lengths, and so is one of which the
points lie half as far again from each other as they should, if that is less than the tolerance. -/
theorem not_cells_of_accepted :
    (∃ geometry, Geometry.new shortLine (some { shortLine.ownGrid with spacing := [20.0] }) = .ok geometry ∧
      toReal 10.0 / 10 ^ 6 < |toReal 20.0 - toReal 10.0|) ∧
    ∃ grid geometry, Grid.new [1.5e-9] [2] [0.0] .double ⟨[⟨0, 2⟩]⟩ = .ok grid ∧
      Geometry.new denseLine (some grid) = .ok geometry ∧ grid.spacing = [1.5e-9] ∧
      toReal 1e-9 / 10 ^ 6 < |toReal 1.5e-9 - toReal 1e-9| := by
  constructor
  · obtain ⟨own, taken⟩ := exists_eq_ok_of_toBool accepted_evaluated.2.1
    have built := new_withSpacing taken [20.0]
    have asked : Binary.ofFloat 10.0 = .finite false 5629499534213120 (-49) := by decide
    have stored : Binary.ofFloat 20.0 = .finite false 5629499534213120 (-48) := by decide
    refine ⟨_, built, ?_⟩
    rw [(spec_of_parts asked).2, (spec_of_parts stored).2]
    norm_num [zpow_neg, abs_of_pos]
  · obtain ⟨grid, made, facts⟩ := exists_of_map_toOption accepted_evaluated.2.2
    obtain ⟨succeeds, spacing⟩ := Prod.mk.inj facts
    obtain ⟨geometry, built⟩ := exists_eq_ok_of_toBool succeeds
    have asked : Binary.ofFloat 1e-9 = .finite false 4835703278458517 (-82) := by decide
    have stored : Binary.ofFloat 1.5e-9 = .finite false 7253554917687775 (-82) := by decide
    refine ⟨grid, geometry, made, built, spacing, ?_⟩
    rw [(spec_of_parts asked).2, (spec_of_parts stored).2]
    norm_num [zpow_neg, abs_of_pos]

end Geometry

end WaveMedium
