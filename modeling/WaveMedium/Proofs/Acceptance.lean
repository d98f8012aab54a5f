/-
Module: WaveMedium.Proofs.Acceptance
Purpose: When a layout accepts the padded grid that it makes itself.
Main exports:
  Geometry.allClose_self, Geometry.difference?_ownGrid, Geometry.accepts_own_grid
-/
import WaveMedium.Proofs.Number.Tolerance
import WaveMedium.Proofs.PaddedGrid

namespace WaveMedium

namespace Geometry

variable {layout : Layout Float}

theorem allClose_self {numbers : List Float} :
    allClose numbers numbers = true ↔ ∀ number ∈ numbers, number.isFinite = true := by
  have pairs : numbers.zip numbers = numbers.map fun number => (number, number) := by
    rw [List.zip_eq_zipWith, List.zipWith_self]
  simp [allClose, pairs, Number.close_self]

theorem difference?_ownGrid :
    layout.difference? layout.ownGrid = none ↔
      (∀ length ∈ layout.ownGrid.extent, length.isFinite = true) ∧
        ∀ start ∈ layout.ownGrid.origin, start.isFinite = true := by
  rw [← allClose_self, ← allClose_self, difference?_eq_none_iff]
  simp [Layout.ownGrid]

/-- A layout accepts the padded grid that it made exactly if the lengths and the origin of that grid are
finite.  The geometry is then the same again. -/
theorem accepts_own_grid {geometry : Geometry Float}
    (built : Geometry.new layout none = .ok geometry) :
    ((∃ again, Geometry.new layout (some geometry.grid) = .ok again) ↔
      (∀ length ∈ geometry.grid.extent, length.isFinite = true) ∧
        ∀ start ∈ geometry.grid.origin, start.isFinite = true) ∧
      ∀ again, Geometry.new layout (some geometry.grid) = .ok again → again = geometry := by
  have valid := valid_of_new built
  have fit := counted_of_new built
  obtain rfl := eq_of_new_none built
  change ((∃ again, Geometry.new layout (some layout.ownGrid) = .ok again) ↔
    (∀ length ∈ layout.ownGrid.extent, length.isFinite = true) ∧
      ∀ start ∈ layout.ownGrid.origin, start.isFinite = true) ∧
    ∀ again, Geometry.new layout (some layout.ownGrid) = .ok again →
      again = layout.geometryOn layout.ownGrid
  rw [← difference?_ownGrid, new_some_eq valid fit]
  cases layout.difference? layout.ownGrid with
  | none => simp
  | some difference => simp

/-- Two points inside a layer of one point. -/
def shortLine : Layout Float where
  origin := [0.0]
  spacing := [10.0]
  shape := [2]
  layer := 1
  precision := .single

/-- The padded grid of the short line is finite, and the line accepts it. -/
theorem accepts_own_grid_shortLine :
    ∃ geometry, Geometry.new shortLine none = .ok geometry ∧
      Geometry.new shortLine (some geometry.grid) = .ok geometry := by
  have shown : (Geometry.new shortLine none).toOption.map
      (fun geometry => geometry.grid.extent.all Float.isFinite &&
        geometry.grid.origin.all Float.isFinite) = some true := by decide
  obtain ⟨geometry, built, finite⟩ := exists_of_map_toOption shown
  obtain ⟨lengths, starts⟩ := Bool.and_eq_true_iff.mp finite
  obtain ⟨accepted, same⟩ := accepts_own_grid built
  obtain ⟨again, taken⟩ := accepted.mpr ⟨List.all_eq_true.mp lengths, List.all_eq_true.mp starts⟩
  exact ⟨geometry, built, same again taken ▸ taken⟩

/-- Three points so far from each other that the line is longer than every finite length. -/
def farLine : Layout Float where
  origin := [0.0]
  spacing := [1e308]
  shape := [3]
  layer := 0
  precision := .double

/-- The far line has a padded grid and does not accept it. -/
theorem not_accepts_own_grid_farLine :
    ∃ geometry, Geometry.new farLine none = .ok geometry ∧
      ∀ again, Geometry.new farLine (some geometry.grid) ≠ .ok again := by
  have shown : (Geometry.new farLine none).toOption.map
      (fun geometry => (Geometry.new farLine (some geometry.grid)).toBool) = some false := by
    decide +kernel
  obtain ⟨geometry, built, refused⟩ := exists_of_map_toOption shown
  refine ⟨geometry, built, fun again taken => ?_⟩
  rw [taken] at refused
  cases refused

end Geometry

end WaveMedium
