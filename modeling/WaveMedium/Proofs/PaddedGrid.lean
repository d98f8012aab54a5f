/-
Module: WaveMedium.Proofs.PaddedGrid
Purpose: The padded grid that a layout makes itself, and which supplied grids it takes instead.
Main exports:
  Layout.ownGrid, Layout.difference?, Layout.geometryOn, Geometry.new_none_eq, Geometry.new_some_eq,
  Geometry.new_of_defect, Layout.padding_of_valid
-/
import WaveMedium.Proofs.Geometry

namespace WaveMedium

/-! ### The parts of a padded grid -/

/-- The physical points lie inside the padded grid. -/
theorem Grid.defect?_eq_none {α : Type} [Scalar α] {extent origin : List α} {shape : List Nat}
    {layer : Nat} (positive : ∀ n ∈ shape, 0 < n) (extents : extent.length = shape.length)
    (origins : origin.length = shape.length) :
    Grid.defect? extent (shape.map (· + 2 * layer)) origin
      ⟨shape.map fun n => ⟨layer, layer + n⟩⟩ = none := by
  have occupied : 0 ∉ shape.map (· + 2 * layer) := by
    intro member
    obtain ⟨k, axis, empty⟩ := List.mem_map.mp member
    have := positive k axis
    omega
  rw [defect?, if_neg (by simp [extents, origins]), if_neg occupied, Option.map_eq_none_iff,
    List.find?_eq_none, List.zip_map']
  intro pair member
  obtain ⟨k, _, rfl⟩ := List.mem_map.mp member
  simp
  omega

namespace Layout

/-- The lengths of the padded grid. -/
def paddedExtent (layout : Layout Float) : List Float :=
  List.zipWith (fun n step => step * Scalar.ofNat (n - 1))
    (layout.shape.map (· + 2 * layout.layer)) layout.spacing

/-- The physical region within the padded grid. -/
def interior (layout : Layout Float) : Region :=
  ⟨layout.shape.map fun n => ⟨layout.layer, layout.layer + n⟩⟩

/-- The padded grid that a layout makes if none is supplied. -/
def ownGrid (layout : Layout Float) : Grid Float where
  shape := layout.shape.map (· + 2 * layout.layer)
  extent := layout.paddedExtent
  origin := layout.paddedOrigin
  spacing := List.zipWith Grid.cellSize layout.paddedExtent (layout.shape.map (· + 2 * layout.layer))
  precision := layout.precision
  interior := layout.interior

/-- How a supplied grid differs from the one that the layout asks for. -/
def difference? (layout : Layout Float) (grid : Grid Float) : Option (GridMismatch Float) :=
  Geometry.mismatch? grid (layout.shape.map (· + 2 * layout.layer)) layout.paddedExtent
    layout.paddedOrigin layout.interior

/-- The physical grid of a layout inside a padded grid. -/
def geometryOn (layout : Layout Float) (grid : Grid Float) : Geometry Float where
  shape := layout.shape
  layer := layout.layer
  origin := layout.origin
  spacing := layout.spacing
  grid := grid

section Counting

variable {α : Type} {layout : Layout α}

/-- The physical region ends inside the padded grid. -/
theorem sizesFit_inset {shape : List Nat} {layer : Nat} (fit : SizesFit (shape.map (· + 2 * layer))) :
    SizesFit (shape.map (layer + ·)) := by
  intro n member
  obtain ⟨k, axis, rfl⟩ := List.mem_map.mp member
  have whole : k + 2 * layer < sizeLimit := fit _ (List.mem_map_of_mem axis)
  omega

theorem paddedShape_eq_ok (fit : SizesFit (layout.shape.map (· + 2 * layout.layer))) :
    layout.paddedShape = .ok (layout.shape.map (· + 2 * layout.layer)) := by
  simp only [paddedShape, checkSizes_of_fit fit]
  rfl

theorem paddedShape_eq_fault (wide : ¬ SizesFit (layout.shape.map (· + 2 * layout.layer))) :
    layout.paddedShape = .error (.fault .sizeOverflow) := by
  simp only [paddedShape, checkSizes_of_not_fit wide]
  rfl

variable [Scalar α]

theorem length_paddedOrigin (valid : layout.validate = .ok ()) :
    layout.paddedOrigin.length = layout.shape.length := by
  obtain ⟨⟨origins, axes⟩, _⟩ := validate_eq_ok_iff.mp valid
  simp [paddedOrigin, origins, axes]

/-- No axis of the padded grid is empty, so each has a length. -/
theorem extent_eq_zipWith (positive : ∀ n ∈ layout.shape, 0 < n)
    (fit : SizesFit (layout.shape.map (· + 2 * layout.layer))) :
    layout.extent = .ok (List.zipWith (fun n step => step * Scalar.ofNat (n - 1))
      (layout.shape.map (· + 2 * layout.layer)) layout.spacing) := by
  simp only [extent, paddedShape_eq_ok fit, bind_ok]
  rw [if_neg]
  · rfl
  · rw [Bool.not_eq_true, List.any_eq_false]
    rintro ⟨n, step⟩ member
    obtain ⟨k, axis, rfl⟩ := List.mem_map.mp (List.of_mem_zip member).1
    have := positive k axis
    simp
    omega

end Counting

variable {layout : Layout Float}

theorem extent_eq_ok (positive : ∀ n ∈ layout.shape, 0 < n)
    (fit : SizesFit (layout.shape.map (· + 2 * layout.layer))) :
    layout.extent = .ok layout.paddedExtent := extent_eq_zipWith positive fit

end Layout

/-! ### The geometry -/

namespace Geometry

variable {layout : Layout Float} {supplied : Option (Grid Float)} {geometry : Geometry Float}

/-- From a valid layout it remains to choose the grid. -/
theorem new_eq_chooseGrid {α : Type} [Scalar α] {layout : Layout α} (valid : layout.validate = .ok ())
    (fit : SizesFit (layout.shape.map (· + 2 * layout.layer))) (supplied : Option (Grid α)) :
    Geometry.new layout supplied =
      (chooseGrid layout.precision (layout.shape.map (· + 2 * layout.layer))
        (List.zipWith (fun n step => step * Scalar.ofNat (n - 1))
          (layout.shape.map (· + 2 * layout.layer)) layout.spacing)
        layout.paddedOrigin ⟨layout.shape.map fun n => ⟨layout.layer, layout.layer + n⟩⟩ supplied).map
        fun grid => ⟨layout.shape, layout.layer, layout.origin, layout.spacing, grid⟩ := by
  obtain ⟨_, _, positive, _⟩ := Layout.validate_eq_ok_iff.mp valid
  simp only [Geometry.new, valid, Layout.paddedShape_eq_ok fit, Layout.extent_eq_zipWith positive fit,
    Region.inset_eq_ok (Layout.sizesFit_inset fit), bind_ok]
  rfl

theorem new_of_valid (valid : layout.validate = .ok ())
    (fit : SizesFit (layout.shape.map (· + 2 * layout.layer))) (supplied : Option (Grid Float)) :
    Geometry.new layout supplied =
      (chooseGrid layout.precision (layout.shape.map (· + 2 * layout.layer)) layout.paddedExtent
        layout.paddedOrigin layout.interior supplied).map layout.geometryOn :=
  new_eq_chooseGrid valid fit supplied

/-- A layout that passes its check has a padded grid if the lengths of that can be counted. -/
theorem new_none_eq (valid : layout.validate = .ok ())
    (fit : SizesFit (layout.shape.map (· + 2 * layout.layer))) :
    Geometry.new layout none = .ok (layout.geometryOn layout.ownGrid) := by
  obtain ⟨⟨_, axes⟩, _, positive, _⟩ := Layout.validate_eq_ok_iff.mp valid
  have lengths : layout.paddedExtent.length = layout.shape.length := by
    simp [Layout.paddedExtent, axes]
  have starts := Layout.length_paddedOrigin valid
  have free : Grid.defect? layout.paddedExtent (layout.shape.map (· + 2 * layout.layer))
      layout.paddedOrigin layout.interior = none := Grid.defect?_eq_none positive lengths starts
  rw [new_of_valid valid fit, chooseGrid, Grid.new, free]
  rfl

/-- A supplied grid is taken exactly if it does not differ. -/
theorem new_some_eq (valid : layout.validate = .ok ())
    (fit : SizesFit (layout.shape.map (· + 2 * layout.layer))) (grid : Grid Float) :
    Geometry.new layout (some grid) =
      match layout.difference? grid with
      | some difference => .error (.rejected (.mismatch difference))
      | none => .ok (layout.geometryOn grid) := by
  rw [new_of_valid valid fit]
  simp only [chooseGrid, Layout.difference?]
  cases mismatch? grid (layout.shape.map (· + 2 * layout.layer)) layout.paddedExtent
    layout.paddedOrigin layout.interior <;> rfl

/-- What a layout compares in a supplied grid. -/
theorem difference?_eq_none_iff {grid : Grid Float} :
    layout.difference? grid = none ↔
      grid.shape = layout.shape.map (· + 2 * layout.layer) ∧
        allClose grid.extent layout.paddedExtent = true ∧ grid.interior = layout.interior ∧
        allClose grid.origin layout.paddedOrigin = true := by
  simp only [Layout.difference?, mismatch?, ite_some_eq_none, ne_eq, Decidable.not_not,
    Bool.not_eq_true', Bool.not_eq_false, and_true]

/-- A layout that does not pass its check is rejected before a grid is looked at. -/
theorem new_of_defect {defect : LayoutDefect Float} (found : layout.defect? = some defect)
    (supplied : Option (Grid Float)) :
    Geometry.new layout supplied = .error (.rejected (.layout defect)) := by
  have rejected : layout.validate = .error (.rejected (.layout defect)) := by
    rw [Layout.validate, found]
  rw [Geometry.new, rejected]
  rfl

theorem valid_of_new (built : Geometry.new layout supplied = .ok geometry) :
    layout.validate = .ok () := by
  obtain ⟨⟨⟩, valid, _⟩ := exists_of_bind_eq_ok built
  exact valid

theorem counted_of_new (built : Geometry.new layout supplied = .ok geometry) :
    SizesFit (layout.shape.map (· + 2 * layout.layer)) := by
  have fits := fits_of_new built
  exact fits.padded ▸ fits.counted

/-- A grid that is taken does not differ, and the geometry lies on it. -/
theorem of_new_some {grid : Grid Float} (built : Geometry.new layout (some grid) = .ok geometry) :
    layout.difference? grid = none ∧ geometry = layout.geometryOn grid := by
  rw [new_some_eq (valid_of_new built) (counted_of_new built)] at built
  cases different : layout.difference? grid with
  | none =>
      rw [different] at built
      exact ⟨rfl, (Except.ok.inj built).symm⟩
  | some difference =>
      rw [different] at built
      cases built

/-- Without a supplied grid the geometry lies on the grid that the layout makes. -/
theorem eq_of_new_none (built : Geometry.new layout none = .ok geometry) :
    geometry = layout.geometryOn layout.ownGrid := by
  rw [new_none_eq (valid_of_new built) (counted_of_new built)] at built
  exact (Except.ok.inj built).symm

/-- If a length of the padded grid cannot be counted, no grid is looked at. -/
theorem new_of_overflow {α : Type} [Scalar α] {layout : Layout α} (valid : layout.validate = .ok ())
    (wide : ¬ SizesFit (layout.shape.map (· + 2 * layout.layer))) (supplied : Option (Grid α)) :
    Geometry.new layout supplied = .error (.fault .sizeOverflow) := by
  rw [Geometry.new, valid, bind_ok, Layout.paddedShape_eq_fault wide]
  rfl

end Geometry

/-! ### Layers of any width -/

namespace Layout

/-- A layout that passes its check can be padded exactly if the padded lengths can be counted.  All parts of
the padded grid then exist, and so does the geometry on it.  Otherwise the first of these parts is a fault,
and no geometry exists on any grid. -/
theorem padding_of_valid {layout : Layout Float} (valid : layout.validate = .ok ()) :
    layout.paddedOrigin.length = layout.shape.length ∧
      if SizesFit (layout.shape.map (· + 2 * layout.layer)) then
        layout.paddedShape = .ok (layout.shape.map (· + 2 * layout.layer)) ∧
          layout.extent = .ok layout.paddedExtent ∧
          Region.inset (α := Float) layout.shape layout.layer = .ok layout.interior ∧
          Geometry.new layout none = .ok (layout.geometryOn layout.ownGrid)
      else
        layout.paddedShape = .error (.fault .sizeOverflow) ∧
          ∀ supplied, Geometry.new layout supplied = .error (.fault .sizeOverflow) := by
  obtain ⟨_, _, positive, _⟩ := validate_eq_ok_iff.mp valid
  refine ⟨length_paddedOrigin valid, ?_⟩
  split
  · rename_i fit
    exact ⟨paddedShape_eq_ok fit, extent_eq_ok positive fit, Region.inset_eq_ok (sizesFit_inset fit),
      Geometry.new_none_eq valid fit⟩
  · rename_i wide
    exact ⟨paddedShape_eq_fault wide, Geometry.new_of_overflow valid wide⟩

/-- One point inside a layer of any width. -/
def pointInside (layer : Nat) : Layout Float where
  origin := [0.0]
  spacing := [10.0]
  shape := [1]
  layer := layer
  precision := .double

theorem validate_pointInside (layer : Nat) : (pointInside layer).validate = .ok () :=
  validate_eq_ok_iff.mpr (by simp [pointInside]; decide)

/-- The widest layer of which the padded axis can be counted. -/
theorem padding_of_valid_pointInside :
    (pointInside (sizeLimit / 2 - 1)).validate = .ok () ∧
      Geometry.new (pointInside (sizeLimit / 2 - 1)) none =
        .ok ((pointInside (sizeLimit / 2 - 1)).geometryOn (pointInside (sizeLimit / 2 - 1)).ownGrid) := by
  have valid := validate_pointInside (sizeLimit / 2 - 1)
  obtain ⟨_, padded⟩ := padding_of_valid valid
  rw [if_pos (by decide)] at padded
  exact ⟨valid, padded.2.2.2⟩

/-- With a layer that is one point wider the layout passes its check and has no padded grid. -/
theorem not_padding_of_valid_pointInside :
    (pointInside (sizeLimit / 2)).validate = .ok () ∧
      (pointInside (sizeLimit / 2)).paddedShape = .error (.fault .sizeOverflow) ∧
      Geometry.new (pointInside (sizeLimit / 2)) none = .error (.fault .sizeOverflow) := by
  have valid := validate_pointInside (sizeLimit / 2)
  have wide : ¬ SizesFit ([1].map (· + 2 * (sizeLimit / 2))) := by decide
  exact ⟨valid, paddedShape_eq_fault wide, Geometry.new_of_overflow valid wide none⟩

end Layout

end WaveMedium
