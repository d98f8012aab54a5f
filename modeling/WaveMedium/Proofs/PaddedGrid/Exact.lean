/-
Module: WaveMedium.Proofs.PaddedGrid.Exact
Purpose: Where the points of a padded grid stand if nothing is rounded on the way.
Main exports:
  Layout.HasAxis, Grid.HasAxis, Grid.Pads, Geometry.exists_pads, Grid.cellSize_mul, Grid.Pads.coord_eq,
  Grid.Places, Geometry.places_of_valid
-/
import Mathlib
import WaveMedium.Proofs.PaddedGrid

/-!
A layout gives the start, the distance of points and their number on each axis.  The padded grid keeps a
start, a length and a number instead, and recovers the distance from the last two.  Over the rational
numbers the recovered distance is that of the layout, unless the axis has a single point; then it is zero,
and no point is away from the start.
-/

namespace WaveMedium

/-! ### Axes -/

/-- What a layout says of an axis: where its first physical point stands, how far its points are apart, and
how many there are. -/
structure Layout.HasAxis {α : Type} (layout : Layout α) (axis : Nat) (start step : α) (n : Nat) : Prop where
  start : layout.origin[axis]? = some start
  step : layout.spacing[axis]? = some step
  points : layout.shape[axis]? = some n

/-- What a padded grid says of an axis: where its first point stands, how far away the last one is, and how
many there are. -/
structure Grid.HasAxis {α : Type} (grid : Grid α) (axis : Nat) (start length : α) (n : Nat) : Prop where
  start : grid.origin[axis]? = some start
  length : grid.extent[axis]? = some length
  points : grid.shape[axis]? = some n

/-- A grid has the parts that a layout computes for its padded grid. -/
structure Grid.Pads {α : Type} [Scalar α] (grid : Grid α) (layout : Layout α) : Prop where
  shape : grid.shape = layout.shape.map (· + 2 * layout.layer)
  extent : grid.extent =
    List.zipWith (fun n step => step * Scalar.ofNat (n - 1)) grid.shape layout.spacing
  origin : grid.origin = layout.paddedOrigin
  spacing : grid.spacing = List.zipWith Grid.cellSize grid.extent grid.shape

section Parts

variable {α : Type} [Scalar α] {layout : Layout α}

/-- The lists of a valid layout are of one length. -/
theorem Layout.exists_hasAxis (valid : layout.validate = .ok ()) {axis : Nat}
    (counted : axis < layout.shape.length) : ∃ start step n, layout.HasAxis axis start step n := by
  obtain ⟨⟨origins, axes⟩, _⟩ := validate_eq_ok_iff.mp valid
  exact ⟨_, _, _,
    { start := List.getElem?_eq_getElem (by omega)
      step := List.getElem?_eq_getElem (by omega)
      points := List.getElem?_eq_getElem counted }⟩

theorem Layout.HasAxis.positive {axis n : Nat} {start step : α} (valid : layout.validate = .ok ())
    (has : layout.HasAxis axis start step n) : 0 < n := by
  obtain ⟨_, _, positive, _⟩ := validate_eq_ok_iff.mp valid
  exact positive n (List.mem_of_getElem? has.points)

/-- The padded grid of a valid layout exists if its lengths can be counted. -/
theorem Geometry.exists_pads (valid : layout.validate = .ok ())
    (fit : SizesFit (layout.shape.map (· + 2 * layout.layer))) :
    ∃ geometry, Geometry.new layout none = .ok geometry ∧ geometry.grid.Pads layout := by
  obtain ⟨⟨_, axes⟩, _, positive, _⟩ := Layout.validate_eq_ok_iff.mp valid
  have free : Grid.defect? (List.zipWith (fun n step => step * Scalar.ofNat (n - 1))
      (layout.shape.map (· + 2 * layout.layer)) layout.spacing)
      (layout.shape.map (· + 2 * layout.layer)) layout.paddedOrigin
      ⟨layout.shape.map fun n => ⟨layout.layer, layout.layer + n⟩⟩ = none :=
    Grid.defect?_eq_none positive (by simp [axes]) (Layout.length_paddedOrigin valid)
  rw [new_eq_chooseGrid valid fit, chooseGrid, Grid.new, free]
  exact ⟨_, rfl, ⟨rfl, rfl, rfl, rfl⟩⟩

/-- Each axis continues by the width of the layer on both sides. -/
theorem Grid.Pads.hasAxis {grid : Grid α} {axis n : Nat} {start step : α} (pads : grid.Pads layout)
    (has : layout.HasAxis axis start step n) :
    grid.HasAxis axis (start - step * Scalar.ofNat layout.layer)
      (step * Scalar.ofNat (n + 2 * layout.layer - 1)) (n + 2 * layout.layer) := by
  have points : grid.shape[axis]? = some (n + 2 * layout.layer) := by
    rw [pads.shape, List.getElem?_map, has.points]
    rfl
  refine ⟨?_, ?_, points⟩
  · rw [pads.origin, Layout.paddedOrigin, List.getElem?_zipWith_eq_some]
    exact ⟨_, _, has.start, has.step, rfl⟩
  · rw [pads.extent, List.getElem?_zipWith_eq_some]
    exact ⟨_, _, points, has.step, rfl⟩

end Parts

/-! ### Points -/

section Points

variable {grid : Grid ℚ} {layout : Layout ℚ} {axis n i : ℕ} {start step : ℚ}

/-- The distance that is recovered from the length of an axis leads from the first point to every other
one. -/
theorem Grid.cellSize_mul (inside : i < n) :
    Grid.cellSize (step * (n - 1 : ℕ)) n * (i : ℚ) = step * i := by
  unfold Grid.cellSize
  split
  · rename_i several
    have apart : ((n - 1 : ℕ) : ℚ) ≠ 0 := Nat.cast_ne_zero.mpr (by omega)
    change step * ((n - 1 : ℕ) : ℚ) / ((n - 1 : ℕ) : ℚ) * i = step * i
    rw [mul_div_cancel_right₀ _ apart]
  · -- A single point: the distance is not recovered, and not needed either.
    obtain rfl : i = 0 := by omega
    simp

/-- The points of the padded grid continue those of the layout, with the same distance. -/
theorem Grid.Pads.coord_eq (pads : grid.Pads layout) (has : layout.HasAxis axis start step n)
    (inside : i < n + 2 * layout.layer) :
    grid.coord axis i = .ok (start + step * (i - layout.layer)) := by
  have padded := pads.hasAxis has
  have cell : grid.spacing[axis]? =
      some (cellSize (step * (n + 2 * layout.layer - 1 : ℕ)) (n + 2 * layout.layer)) := by
    rw [pads.spacing, List.getElem?_zipWith_eq_some]
    exact ⟨_, _, padded.length, padded.points, rfl⟩
  have position : start - step * layout.layer +
      cellSize (step * (n + 2 * layout.layer - 1 : ℕ)) (n + 2 * layout.layer) * i =
        start + step * (i - layout.layer) := by
    rw [cellSize_mul inside]
    ring
  rw [coord, padded.start, cell]
  exact congrArg Except.ok position

/-- A padded grid has the points of an axis where the layout has them. -/
structure Grid.Places (grid : Grid ℚ) (layout : Layout ℚ) (axis : ℕ) (start step : ℚ) (n : ℕ) :
    Prop where
  /-- Behind the layer the physical points follow, each where the layout has it. -/
  inside : ∀ i < n, grid.coord axis (layout.layer + i) = .ok (start + step * i)
  /-- The first point lies the width of the layer before the first physical one. -/
  first : grid.coord axis 0 = .ok (start - layout.layer * step)
  /-- The last point lies the length of the axis behind its start. -/
  last : ∃ origin extent points, grid.HasAxis axis origin extent points ∧
    grid.coord axis (points - 1) = .ok (origin + extent)

theorem Grid.Pads.places (pads : grid.Pads layout) (has : layout.HasAxis axis start step n)
    (positive : 0 < n) : grid.Places layout axis start step n where
  inside i less := by
    have whole : layout.layer + i < n + 2 * layout.layer := by omega
    rw [pads.coord_eq has whole]
    congr 1
    push_cast
    ring
  first := by
    rw [pads.coord_eq has (by omega)]
    congr 1
    push_cast
    ring
  last := by
    refine ⟨_, _, _, pads.hasAxis has, ?_⟩
    rw [pads.coord_eq has (by omega)]
    apply congrArg Except.ok
    change start + step * (((n + 2 * layout.layer - 1 : ℕ) : ℚ) - layout.layer) =
      start - step * layout.layer + step * (n + 2 * layout.layer - 1 : ℕ)
    ring

end Points

/-- The padded grid that a valid layout makes has the points of every axis where the layout has them.  The
grid exists if its lengths can be counted; otherwise no geometry exists, on this grid or a supplied one. -/
theorem Geometry.places_of_valid {layout : Layout ℚ} (valid : layout.validate = .ok ()) :
    if SizesFit (layout.shape.map (· + 2 * layout.layer)) then
      ∃ geometry, Geometry.new layout none = .ok geometry ∧
        ∀ axis < layout.shape.length, ∃ start step n, layout.HasAxis axis start step n ∧
          geometry.grid.Places layout axis start step n
    else ∀ supplied, Geometry.new layout supplied = .error (.fault .sizeOverflow) := by
  split
  · rename_i fit
    obtain ⟨geometry, built, pads⟩ := exists_pads valid fit
    refine ⟨geometry, built, fun axis counted => ?_⟩
    obtain ⟨start, step, n, has⟩ := Layout.exists_hasAxis valid counted
    exact ⟨start, step, n, has, pads.places has (has.positive valid)⟩
  · rename_i wide
    exact new_of_overflow valid wide

/-- A rational number is always finite, so a positive one can be the distance of two points. -/
theorem Layout.badStep_of_pos {step : ℚ} (positive : 0 < step) : badStep step = false := by
  change (decide (step ≤ (0 : ℕ)) || !true) = false
  simpa using positive

/-- A section one point wide and three points deep. -/
def Layout.thinSection (layer : Nat) : Layout ℚ where
  origin := [7, -1]
  spacing := [1 / 3, 5 / 2]
  shape := [1, 3]
  layer := layer
  precision := .single

theorem Layout.validate_thinSection (layer : Nat) : (thinSection layer).validate = .ok () :=
  validate_eq_ok_iff.mpr (by simp [thinSection, badStep_of_pos])

/-- Without a layer the only point of the first axis stands at its origin.  Inside a layer of two points the
second axis, which has its origin at -1, starts at -6 and has its last physical point at 4. -/
theorem Geometry.places_of_valid_thinSection :
    (∃ geometry, Geometry.new (.thinSection 0) none = .ok geometry ∧
      geometry.grid.coord 0 0 = .ok 7) ∧
    ∃ geometry, Geometry.new (.thinSection 2) none = .ok geometry ∧
      geometry.grid.coord 1 0 = .ok (-6) ∧ geometry.grid.coord 1 4 = .ok 4 := by
  have single := places_of_valid (Layout.validate_thinSection 0)
  have wide := places_of_valid (Layout.validate_thinSection 2)
  rw [if_pos (by decide)] at single wide
  constructor
  · obtain ⟨geometry, built, axes⟩ := single
    obtain ⟨_, _, _, ⟨⟨⟩, ⟨⟩, ⟨⟩⟩, places⟩ := axes 0 (by decide)
    refine ⟨geometry, built, places.first.trans ?_⟩
    norm_num [Layout.thinSection]
  · obtain ⟨geometry, built, axes⟩ := wide
    obtain ⟨_, _, _, ⟨⟨⟩, ⟨⟩, ⟨⟩⟩, places⟩ := axes 1 (by decide)
    refine ⟨geometry, built, places.first.trans ?_, (places.inside 2 (by decide)).trans ?_⟩
    all_goals norm_num [Layout.thinSection]

end WaveMedium
