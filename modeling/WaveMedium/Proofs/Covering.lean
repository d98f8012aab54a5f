/-
Module: WaveMedium.Proofs.Covering
Purpose: A field that repeats values of the physical region over the layer and the halo shows these values
  and no others, whatever the widths of the layer and of the halo are.
Main exports:
  Layout.nearestPoint, Layout.cellOver, Quantity.Every, Quantity.valueAt, Field.Covers,
  Geometry.Fits.covers_field, Field.largest_spec, Field.physical, Field.Alike, Field.Covers.alike
-/
import WaveMedium.Proofs.Geometry
import WaveMedium.Proofs.Tensor.Extrema

namespace WaveMedium

open Number

/-! ### Points and cells -/

/-- The point of the physical region that stands nearest to a cell of the storage. -/
def Layout.nearestPoint (layout : Layout Float) (order : Nat) (index : List Nat) : List Nat :=
  List.zipWith (fun n i => min (i - order - layout.layer) (n - 1)) layout.shape index

/-- The cell of the storage that stands over a point of the physical region. -/
def Layout.cellOver (layout : Layout Float) (order : Nat) (point : List Nat) : List Nat :=
  point.map fun i => order + (layout.layer + i)

theorem inBox_nearest {shape index : List Nat} {layer order : Nat} (positive : ∀ n ∈ shape, 0 < n)
    (inside : InBox (shape.map fun n => n + 2 * layer + 2 * order) index) :
    InBox shape (List.zipWith (fun n i => min (i - order - layer) (n - 1)) shape index) := by
  induction shape generalizing index with
  | nil => trivial
  | cons n shape ih =>
      cases index with
      | nil => exact absurd inside id
      | cons i index =>
          have axis : 0 < n := positive n (List.mem_cons_self ..)
          have first : min (i - order - layer) (n - 1) < n := by omega
          exact ⟨first, ih (fun k member => positive k (List.mem_cons_of_mem n member)) inside.2⟩

theorem inBox_over {shape point : List Nat} (layer order : Nat) (inside : InBox shape point) :
    InBox (shape.map fun n => n + 2 * layer + 2 * order)
        (point.map fun i => order + (layer + i)) ∧
      List.zipWith (fun n i => min (i - order - layer) (n - 1)) shape
          (point.map fun i => order + (layer + i)) = point := by
  induction shape generalizing point with
  | nil =>
      cases point with
      | nil => exact ⟨trivial, rfl⟩
      | cons i point => exact absurd inside id
  | cons n shape ih =>
      cases point with
      | nil => exact absurd inside id
      | cons i point =>
          have small : i < n := inside.1
          obtain ⟨cells, nearest⟩ := ih inside.2
          have first : order + (layer + i) < n + 2 * layer + 2 * order := by omega
          have here : min (order + (layer + i) - order - layer) (n - 1) = i := by omega
          refine ⟨⟨first, cells⟩, ?_⟩
          rw [List.map_cons, List.zipWith_cons_cons, here, nearest]

theorem inBox_zeros {shape : List Nat} (positive : ∀ n ∈ shape, 0 < n) :
    InBox shape (shape.map fun _ => 0) := by
  induction shape with
  | nil => trivial
  | cons n shape ih =>
      exact ⟨positive n (List.mem_cons_self ..),
        ih fun k member => positive k (List.mem_cons_of_mem n member)⟩

/-! ### Values -/

/-- All values of a quantity have a property. -/
def Quantity.Every (p : Float → Prop) : Quantity → Prop
  | .uniform value => p value
  | .varying values => ∀ index value, values.get? index = some value → p value

theorem Quantity.Every.mono {quantity : Quantity} {p q : Float → Prop} (every : quantity.Every p)
    (weaker : ∀ value, p value → q value) : quantity.Every q := by
  cases quantity with
  | uniform value => exact weaker value every
  | varying values => exact fun index value found => weaker value (every index value found)

theorem Quantity.every_varying_iff {values : Tensor Float} {p : Float → Prop} :
    (Quantity.varying values).Every p ↔ ∀ value ∈ values.cells.toList, p value := by
  simp only [Quantity.Every, Tensor.mem_cells_iff, forall_exists_index]
  exact forall_comm

instance (p : Float → Prop) [DecidablePred p] : DecidablePred (Quantity.Every p)
  | .uniform value => inferInstanceAs (Decidable (p value))
  | .varying _ => decidable_of_iff _ Quantity.every_varying_iff.symm

/-- The value of a quantity at a point of the physical region. -/
def Quantity.valueAt (quantity : Quantity) (point : List Nat) : Float :=
  match quantity with
  | .uniform value => value
  | .varying values => values.getD point 0.0

/-! ### Fields that repeat values -/

/-- A field of a layout repeats values of the physical region: in each cell of the storage it has the value
of the nearest point. -/
structure Field.Covers (field : Field) (layout : Layout Float) (order : Nat) (varies : Prop)
    (value : List Nat → Float) : Prop where
  representation : field.representation = .varying ↔ varies
  cells : ∀ index, InBox (layout.storageShape order) index →
    field.operand.cell? index = some (value (layout.nearestPoint order index))
  frame : ∀ stored, field = .varying stored → stored.storage.shape = layout.storageShape order ∧
    stored.halo = List.replicate layout.shape.length (Margin.even order)

namespace Geometry

variable {geometry : Geometry Float} {layout : Layout Float} {name : String} {order : Nat}

/-- The field of a quantity repeats its values, rounded. -/
theorem Fits.covers_field (fits : geometry.Fits layout) {quantity : Quantity} {field : Field}
    (made : geometry.field name quantity order = .ok field) :
    field.Covers layout order (quantity.representation = .varying)
      fun point => geometry.grid.precision.cast (quantity.valueAt point) := by
  cases quantity with
  | uniform value =>
      cases made
      refine ⟨Iff.rfl, fun _ _ => rfl, fun stored impossible => ?_⟩
      cases impossible
  | varying values =>
      obtain ⟨blank, zeroed, fills, rfl⟩ := fits.of_field_varying made
      have frame := StoredField.frameOf_ofOrder zeroed
      have whole := frame.extended values geometry.layer .edge
      have shape := fits.shape_storage whole
      refine ⟨Iff.rfl, fun index inside => ?_, fun stored here => ?_⟩
      · obtain ⟨value, found, stored⟩ := fits.get?_extendedStorage frame fills (shape.symm ▸ inside)
        have same : values.getD (layout.nearestPoint order index) 0.0 = value :=
          Tensor.getD_eq found 0.0
        rw [Quantity.valueAt, same]
        exact stored
      · cases here
        exact ⟨shape, fits.halo_eq whole⟩

end Geometry

/-! ### What such a field shows -/

/-- What a field shows of the region that the physical points take up. -/
def Field.physical (field : Field) (region : Region) : Outcome Quantity :=
  match field with
  | .uniform field => .ok (.uniform field.value)
  | .varying field => do
      let values ← field.interior region
      return .varying values

namespace Field.Covers

variable {layout : Layout Float} {order : Nat} {varies : Prop} {value : List Nat → Float}

theorem cell_over {field : Field} (covers : field.Covers layout order varies value)
    {point : List Nat} (inside : InBox layout.shape point) :
    field.operand.cell? (layout.cellOver order point) = some (value point) := by
  obtain ⟨stored, nearest⟩ := inBox_over layout.layer order inside
  rw [covers.cells (layout.cellOver order point) stored]
  exact congrArg (fun point => some (value point)) nearest

/-- A uniform field has the value of every point. -/
theorem uniform_value {field : UniformField}
    (covers : (Field.uniform field).Covers layout order varies value) {point : List Nat}
    (inside : InBox layout.shape point) : field.value = value point :=
  Option.some.inj (covers.cell_over inside)

theorem shape_eq {field : StoredField}
    (covers : (Field.varying field).Covers layout order varies value) :
    field.shape = layout.shape.map (· + 2 * layout.layer) := by
  obtain ⟨shape, halo⟩ := covers.frame field rfl
  have whole := enlarge_even (layout.shape.map (· + 2 * layout.layer)) order
  rw [List.length_map, List.map_map] at whole
  have stored : field.storage.shape = _ := shape.trans whole.symm
  rw [StoredField.shape, stored, halo, shrink_enlarge (by simp)]

/-- The physical region shows the values. -/
theorem interior_eq_ok {field : StoredField}
    (covers : (Field.varying field).Covers layout order varies value) :
    field.interior ⟨layout.shape.map fun n => ⟨layout.layer, layout.layer + n⟩⟩ =
      .ok (Tensor.ofFn layout.shape value) := by
  have padded : field.data.shape = layout.shape.map (· + 2 * layout.layer) := by
    rw [StoredField.shape_data, covers.shape_eq]
  rw [StoredField.interior, Region.crop_inset padded]
  congr 1
  refine Tensor.ext_get? rfl fun point inside => ?_
  rw [Tensor.shape_ofFn] at inside
  rw [Tensor.get?_ofFn _ inside, Tensor.get?_ofFn _ inside]
  have behind := StoredField.inBox_layer layout.layer inside
  have halo := (covers.frame field rfl).2
  have shift : Margin.shift field.halo (point.map (layout.layer + ·)) =
      layout.cellOver order point := by
    rw [halo, ← length_eq_of_inBox inside, ← List.length_map, shift_even, List.map_map]
    rfl
  have shown : field.data.get? (point.map (layout.layer + ·)) = some (value point) := by
    rw [field.get?_data (covers.shape_eq ▸ behind), shift]
    exact covers.cell_over inside
  rw [Tensor.getD_eq shown]

/-- The storage has the values of the physical region and no others. -/
theorem stored_iff {field : StoredField} (positive : ∀ n ∈ layout.shape, 0 < n)
    (covers : (Field.varying field).Covers layout order varies value) (x : Float) :
    (∃ index, field.storage.get? index = some x) ↔
      ∃ point, InBox layout.shape point ∧ value point = x := by
  have shape := (covers.frame field rfl).1
  constructor
  · rintro ⟨index, found⟩
    have inside : InBox (layout.storageShape order) index := by
      rw [← shape]
      exact Tensor.inBox_of_get? found
    have cell := covers.cells index inside
    rw [show (Field.varying field).operand.cell? index = some x from found] at cell
    exact ⟨_, inBox_nearest positive inside, (Option.some.inj cell).symm⟩
  · rintro ⟨point, inside, rfl⟩
    exact ⟨_, covers.cell_over inside⟩

end Field.Covers

/-- The largest value of a field stands in a cell, unless the field varies and has no numbers, and no number
in a cell surpasses it. -/
theorem Field.largest_spec {field : Field} {shape : List Nat} {value : List Nat → Float}
    (stored : ∀ held, field = .varying held → held.storage.shape = shape)
    (cells : ∀ index, InBox shape index → field.operand.cell? index = some (value index))
    {point : List Nat} (within : InBox shape point) :
    (field.largest = negativeInfinity ∨ ∃ index, InBox shape index ∧ field.largest = value index) ∧
      ∀ index, InBox shape index → (value index).isNaN = false →
        field.largest.isNaN = false ∧ place (value index) ≤ place field.largest := by
  cases field with
  | uniform held =>
      have same : ∀ index, InBox shape index → held.value = value index :=
        fun index inside => Option.some.inj (cells index inside)
      refine ⟨.inr ⟨point, within, same point within⟩, fun index inside number => ?_⟩
      rw [Field.largest, same index inside]
      exact ⟨number, le_rfl⟩
  | varying held =>
      have box := stored held rfl
      have extreme := held.storage.extreme_largest
      constructor
      · rcases extreme.found with absent | member
        · exact .inl absent
        · obtain ⟨index, found⟩ := Tensor.mem_cells_iff.mp member
          have inside : InBox shape index := box ▸ Tensor.inBox_of_get? found
          have here := cells index inside
          rw [Field.operand, Operand.cell?, found] at here
          exact .inr ⟨index, inside, Option.some.inj here⟩
      · intro index inside number
        have member : value index ∈ held.storage.cells.toList :=
          Tensor.mem_cells_iff.mpr ⟨index, cells index inside⟩
        exact ⟨extreme.number, extreme.bound _ member number⟩

/-! ### Two fields side by side -/

/-- Two fields show the same of the regions that their physical points take up: one value or the same
values, and the same extremes up to the sign of a zero. -/
structure Field.Alike (a b : Field) (here there : Region) : Prop where
  representation : a.representation = b.representation
  physical : ∃ shown, a.physical here = .ok shown ∧ b.physical there = .ok shown
  smallest : SameNumber a.smallest b.smallest
  largest : SameNumber a.largest b.largest

/-- Fields that repeat the same values over layers and halos of different widths are alike. -/
theorem Field.Covers.alike {a b : Field} {here there : Layout Float} {left right : Nat}
    {varies : Prop} {value : List Nat → Float} (same : here.shape = there.shape)
    (positive : ∀ n ∈ here.shape, 0 < n) (first : a.Covers here left varies value)
    (second : b.Covers there right varies value) :
    a.Alike b ⟨here.shape.map fun n => ⟨here.layer, here.layer + n⟩⟩
      ⟨there.shape.map fun n => ⟨there.layer, there.layer + n⟩⟩ := by
  have representation : a.representation = .varying ↔ b.representation = .varying :=
    first.representation.trans second.representation.symm
  cases a with
  | uniform a =>
      cases b with
      | varying b => simp [Field.representation] at representation
      | uniform b =>
          have point := inBox_zeros positive
          have again : InBox there.shape (here.shape.map fun _ => 0) := by
            rw [← same]
            exact point
          have equal : a.value = b.value :=
            (first.uniform_value point).trans (second.uniform_value again).symm
          exact
            { representation := rfl
              physical := ⟨.uniform a.value, rfl, equal ▸ rfl⟩
              smallest := .inl equal
              largest := .inl equal }
  | varying a =>
      cases b with
      | uniform b => simp [Field.representation] at representation
      | varying b =>
          have values : ∀ x, (∃ index, a.storage.get? index = some x) ↔
              ∃ index, b.storage.get? index = some x := by
            intro x
            rw [first.stored_iff positive, second.stored_iff (same ▸ positive), same]
          refine
            { representation := rfl
              physical := ⟨.varying (Tensor.ofFn here.shape value), ?_, ?_⟩
              smallest := Tensor.sameNumber_smallest values
              largest := Tensor.sameNumber_largest values }
          · simp only [Field.physical, first.interior_eq_ok, bind_ok]
            rfl
          · simp only [Field.physical, second.interior_eq_ok, bind_ok, same]
            rfl

end WaveMedium
