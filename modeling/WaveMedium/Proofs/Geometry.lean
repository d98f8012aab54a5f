/-
Module: WaveMedium.Proofs.Geometry
Purpose: The padded grid of a medium belongs to its layout, and a field that is made from a supplied
  quantity holds it.
Main exports:
  Layout.validate_eq_ok_iff, Geometry.Fits, Geometry.fits_of_new, StoredField.FrameOf, StoredField.frameOf_ofOrder,
  Geometry.Fits.perform_extend, Geometry.Fits.of_field_varying, Geometry.Fits.field_varying,
  Field.Holds, Geometry.Fits.holds_field
-/
import WaveMedium.Geometry
import WaveMedium.Proofs.Extension

namespace WaveMedium

/-! ### The padded grid -/

/-- A geometry has the physical grid of a layout, and its padded grid has a layer on every face. -/
structure Geometry.Fits (geometry : Geometry Float) (layout : Layout Float) : Prop where
  shape : geometry.shape = layout.shape
  layer : geometry.layer = layout.layer
  origin : geometry.origin = layout.origin
  spacing : geometry.spacing = layout.spacing
  someAxes : layout.shape ≠ []
  fewAxes : layout.shape.length ≤ 3
  positive : ∀ n ∈ layout.shape, 0 < n
  padded : geometry.grid.shape = layout.shape.map (· + 2 * layout.layer)
  counted : SizesFit geometry.grid.shape
  interior : geometry.grid.interior =
    ⟨layout.shape.map fun n => ⟨layout.layer, layout.layer + n⟩⟩

theorem ite_some_eq_none {α : Type} {p : Prop} [Decidable p] {value : α} {rest : Option α} :
    (if p then some value else rest) = none ↔ ¬ p ∧ rest = none := by
  by_cases holds : p <;> simp [holds]

/-- What passes the check is a physical grid. -/
theorem Layout.validate_eq_ok_iff {α : Type} [Scalar α] {layout : Layout α} :
    layout.validate = .ok () ↔
      (layout.origin.length = layout.spacing.length ∧
        layout.spacing.length = layout.shape.length) ∧
        (layout.shape ≠ [] ∧ layout.shape.length ≤ 3) ∧ (∀ n ∈ layout.shape, 0 < n) ∧
        layout.spacing.any badStep = false := by
  have sound : layout.validate = .ok () ↔ layout.defect? = none := by
    unfold Layout.validate
    split
    · rename_i defect found
      simp [found]
    · rename_i free
      simp [free]
  have positive : (∀ n ∈ layout.shape, 0 < n) ↔ 0 ∉ layout.shape := by
    constructor
    · intro axes member
      exact absurd (axes 0 member) (Nat.lt_irrefl 0)
    · intro axes n member
      exact Nat.pos_of_ne_zero fun zero => axes (zero ▸ member)
  rw [sound, positive, Layout.defect?]
  simp only [ite_some_eq_none, not_or, Decidable.not_not, List.isEmpty_iff, Nat.not_lt, ne_eq,
    Bool.not_eq_true, and_true]

theorem Layout.of_paddedShape {layout : Layout Float} {shape : List Nat}
    (padded : layout.paddedShape = .ok shape) :
    shape = layout.shape.map (· + 2 * layout.layer) ∧ SizesFit shape := by
  obtain ⟨⟨⟩, checked, returned⟩ := exists_of_bind_eq_ok padded
  cases returned
  exact ⟨rfl, sizesFit_of_checkSizes checked⟩

theorem Region.eq_of_inset {shape : List Nat} {width : Nat} {region : Region}
    (inset : Region.inset (α := Float) shape width = .ok region) :
    region = ⟨shape.map fun n => ⟨width, width + n⟩⟩ := by
  obtain ⟨⟨⟩, _, returned⟩ := exists_of_bind_eq_ok inset
  cases returned
  rfl

/-- A new grid has the parts that it was put together from. -/
theorem Grid.of_new {extent origin : List Float} {shape : List Nat} {precision : Precision}
    {interior : Region} {grid : Grid Float}
    (built : Grid.new extent shape origin precision interior = .ok grid) :
    grid.shape = shape ∧ grid.interior = interior ∧ grid.precision = precision := by
  unfold Grid.new at built
  split at built
  · cases built
  · cases built
    exact ⟨rfl, rfl, rfl⟩

theorem Geometry.of_mismatch?_eq_none {supplied : Grid Float} {shape : List Nat}
    {extent origin : List Float} {interior : Region}
    (agrees : mismatch? supplied shape extent origin interior = none) :
    supplied.shape = shape ∧ supplied.interior = interior := by
  unfold mismatch? at agrees
  split at agrees
  · cases agrees
  · rename_i shapes
    split at agrees
    · cases agrees
    · split at agrees
      · cases agrees
      · rename_i interiors
        exact ⟨Decidable.not_not.mp shapes, Decidable.not_not.mp interiors⟩

/-- A grid that was built or accepted has the shape and the interior that were asked for. -/
theorem Geometry.of_chooseGrid {precision : Precision} {shape : List Nat}
    {extent origin : List Float} {interior : Region} {supplied : Option (Grid Float)}
    {grid : Grid Float}
    (chosen : chooseGrid precision shape extent origin interior supplied = .ok grid) :
    grid.shape = shape ∧ grid.interior = interior := by
  unfold chooseGrid at chosen
  split at chosen
  · obtain ⟨shapes, interiors, _⟩ := Grid.of_new chosen
    exact ⟨shapes, interiors⟩
  · split at chosen
    · cases chosen
    · rename_i agrees
      cases chosen
      exact of_mismatch?_eq_none agrees

theorem Geometry.fits_of_new {layout : Layout Float} {supplied : Option (Grid Float)}
    {geometry : Geometry Float} (built : Geometry.new layout supplied = .ok geometry) :
    geometry.Fits layout := by
  unfold Geometry.new at built
  obtain ⟨⟨⟩, valid, built⟩ := exists_of_bind_eq_ok built
  obtain ⟨shape, padded, built⟩ := exists_of_bind_eq_ok built
  obtain ⟨extent, _, built⟩ := exists_of_bind_eq_ok built
  obtain ⟨interior, inset, built⟩ := exists_of_bind_eq_ok built
  obtain ⟨grid, chosen, built⟩ := exists_of_bind_eq_ok built
  cases built
  obtain ⟨_, ⟨someAxes, fewAxes⟩, positive, _⟩ := Layout.validate_eq_ok_iff.mp valid
  obtain ⟨rfl, counted⟩ := Layout.of_paddedShape padded
  obtain rfl := Region.eq_of_inset inset
  obtain ⟨shapes, interiors⟩ := of_chooseGrid chosen
  exact
    { shape := rfl
      layer := rfl
      origin := rfl
      spacing := rfl
      someAxes := someAxes
      fewAxes := fewAxes
      positive := positive
      padded := shapes
      counted := shapes ▸ counted
      interior := interiors }

/-- There is one spacing per axis. -/
theorem Geometry.length_spacing_of_new {layout : Layout Float} {supplied : Option (Grid Float)}
    {geometry : Geometry Float} (built : Geometry.new layout supplied = .ok geometry) :
    geometry.spacing.length = layout.shape.length := by
  have fits := fits_of_new built
  obtain ⟨⟨⟩, valid, _⟩ := exists_of_bind_eq_ok built
  rw [fits.spacing]
  exact (Layout.validate_eq_ok_iff.mp valid).1.2

/-! ### Fields of the padded grid -/

/-- Everything in a field but the stored values. -/
structure StoredField.SameFrame (a b : StoredField) : Prop where
  name : a.name = b.name
  halo : a.halo = b.halo
  spaceOrder : a.spaceOrder = b.spaceOrder
  precision : a.precision = b.precision
  stored : a.storage.shape = b.storage.shape

theorem StoredField.SameFrame.symm {a b : StoredField} (frame : a.SameFrame b) : b.SameFrame a where
  name := frame.name.symm
  halo := frame.halo.symm
  spaceOrder := frame.spaceOrder.symm
  precision := frame.precision.symm
  stored := frame.stored.symm

theorem StoredField.SameFrame.trans {a b c : StoredField} (first : a.SameFrame b)
    (second : b.SameFrame c) : a.SameFrame c where
  name := first.name.trans second.name
  halo := first.halo.trans second.halo
  spaceOrder := first.spaceOrder.trans second.spaceOrder
  precision := first.precision.trans second.precision
  stored := first.stored.trans second.stored

/-- A field has the frame of a new field on a grid, with a halo for a stencil of the given order. -/
structure StoredField.FrameOf (field : StoredField) (name : String) (grid : Grid Float)
    (order : Nat) : Prop where
  name : field.name = name
  halo : field.halo = StoredField.evenHalo grid order
  spaceOrder : field.spaceOrder = order
  precision : field.precision = grid.precision
  stored : field.storage.shape = enlarge grid.shape (StoredField.evenHalo grid order)

namespace StoredField

theorem of_zeros {name : String} {grid : Grid Float} {halo : List Margin} {field : StoredField}
    (zeroed : zeros name grid halo = .ok field) :
    field.name = name ∧ field.halo = halo ∧ field.precision = grid.precision ∧
      field.storage.shape = enlarge grid.shape halo := by
  unfold zeros at zeroed
  split at zeroed
  · cases zeroed
    exact ⟨rfl, rfl, rfl, rfl⟩
  · cases zeroed

/-- A field whose lengths can be counted can be made. -/
theorem exists_zeros {grid : Grid Float} {halo : List Margin} (name : String)
    (fit : SizesFit (enlarge grid.shape halo)) : ∃ field, zeros name grid halo = .ok field :=
  ⟨_, dif_pos fit⟩

theorem exists_ofOrder {grid : Grid Float} {order : Nat} (name : String)
    (fit : SizesFit (enlarge grid.shape (evenHalo grid order))) :
    ∃ field, ofOrder name grid order = .ok field := by
  obtain ⟨blank, zeroed⟩ := exists_zeros name fit
  rw [ofOrder, zeroed]
  exact ⟨_, rfl⟩

theorem frameOf_ofOrder {name : String} {grid : Grid Float} {order : Nat} {field : StoredField}
    (made : ofOrder name grid order = .ok field) : field.FrameOf name grid order := by
  obtain ⟨blank, zeroed, made⟩ := exists_of_bind_eq_ok made
  cases made
  obtain ⟨names, halos, precisions, lengths⟩ := of_zeros zeroed
  exact ⟨names, halos, rfl, precisions, lengths⟩

theorem FrameOf.shape_eq {field : StoredField} {name : String} {grid : Grid Float} {order : Nat}
    (frame : field.FrameOf name grid order) : field.shape = grid.shape := by
  have enough : grid.shape.length ≤ (evenHalo grid order).length := by simp [evenHalo, Grid.rank]
  rw [shape, frame.stored, frame.halo, shrink_enlarge enough]

theorem FrameOf.length_halo {field : StoredField} {name : String} {grid : Grid Float} {order : Nat}
    (frame : field.FrameOf name grid order) :
    field.halo.length = field.storage.shape.length := by
  simp [frame.halo, frame.stored, enlarge, evenHalo, Grid.rank]

theorem extended_congr {a b : StoredField} (frame : a.SameFrame b) (values : Tensor Float)
    (layer : Nat) (filling : Filling) :
    a.extended values layer filling = b.extended values layer filling := by
  obtain ⟨name, halo, order, precision, ⟨shape, cells⟩, haloFits, sizesFit⟩ := a
  obtain ⟨_, _, _, _, ⟨_, others⟩, _, _⟩ := b
  obtain ⟨rfl, rfl, rfl, rfl, rfl⟩ := frame
  rfl

theorem sameFrame_extended (field : StoredField) (values : Tensor Float) (layer : Nat)
    (filling : Filling) : (field.extended values layer filling).SameFrame field :=
  ⟨rfl, rfl, rfl, rfl, rfl⟩

theorem FrameOf.extended {field : StoredField} {name : String} {grid : Grid Float} {order : Nat}
    (frame : field.FrameOf name grid order) (values : Tensor Float) (layer : Nat)
    (filling : Filling) : (field.extended values layer filling).FrameOf name grid order :=
  ⟨frame.name, frame.halo, frame.spaceOrder, frame.precision, frame.stored⟩

end StoredField

namespace Geometry

variable {geometry : Geometry Float} {layout : Layout Float} {name : String} {order : Nat}

/-- The layer on both faces together can be counted. -/
theorem Fits.layers_lt (fits : geometry.Fits layout) : 2 * geometry.layer < sizeLimit := by
  obtain ⟨n, rest, axes⟩ := List.exists_cons_of_ne_nil fits.someAxes
  have first : n + 2 * layout.layer ∈ geometry.grid.shape := by
    rw [fits.padded, axes]
    exact List.mem_cons_self ..
  have counted := fits.counted _ first
  rw [fits.layer]
  omega

theorem Fits.admits {field : StoredField} {values : Tensor Float} (fits : geometry.Fits layout)
    (frame : field.FrameOf name geometry.grid order) (fills : values.shape = geometry.shape) :
    field.Admits values geometry.layer := by
  refine ⟨values.isEmpty_eq_false_iff.mpr ?_, ?_⟩
  · rw [fills, fits.shape]
    exact fits.positive
  · rw [fills, fits.shape, fits.layer, frame.shape_eq, fits.padded]

/-- Values that cover the physical region are written into a field of the padded grid. -/
theorem Fits.perform_extend {field : StoredField} {values : Tensor Float}
    (fits : geometry.Fits layout) (frame : field.FrameOf name geometry.grid order)
    (fills : values.shape = geometry.shape) :
    (geometry.extend values).perform field =
      (.ok (), field.extended values geometry.layer .edge) := by
  simp only [extend, Change.perform_bind, Change.perform_get, if_pos fills]
  exact StoredField.perform_extend_of_admits .edge frame.length_halo fits.layers_lt
    (fits.admits frame fills)

/-- Values of another shape are rejected, and the field is left as it was. -/
theorem perform_extend_of_ne {field : StoredField} {values : Tensor Float}
    (apart : values.shape ≠ geometry.shape) :
    (geometry.extend values).perform field =
      (.error (.rejected (.shape field.name geometry.shape values.shape)), field) := by
  simp only [extend, Change.perform_bind, Change.perform_get, if_neg apart, Change.perform_throw]

/-- A field that is made from values per point is a new field filled from these values. -/
theorem Fits.of_field_varying {values : Tensor Float} {field : Field}
    (fits : geometry.Fits layout)
    (made : geometry.field name (.varying values) order = .ok field) :
    ∃ blank, StoredField.ofOrder name geometry.grid order = .ok blank ∧
      values.shape = geometry.shape ∧
      field = .varying (blank.extended values geometry.layer .edge) := by
  obtain ⟨blank, zeroed, made⟩ := exists_of_bind_eq_ok made
  obtain ⟨filled, written, made⟩ := exists_of_bind_eq_ok made
  cases made
  by_cases fills : values.shape = geometry.shape
  · have done := fits.perform_extend (StoredField.frameOf_ofOrder zeroed) fills
    rw [Change.result_eq_ok done] at written
    cases written
    exact ⟨blank, zeroed, fills, rfl⟩
  · rw [Change.result_eq_error (perform_extend_of_ne fills)] at written
    cases written

theorem Fits.frameOf_of_field {quantity : Quantity} {field : StoredField}
    (fits : geometry.Fits layout)
    (made : geometry.field name quantity order = .ok (.varying field)) :
    field.FrameOf name geometry.grid order := by
  cases quantity with
  | uniform value => cases made
  | varying values =>
      obtain ⟨blank, zeroed, _, filled⟩ := fits.of_field_varying made
      cases filled
      exact (StoredField.frameOf_ofOrder zeroed).extended values geometry.layer .edge

/-- A field has one value or one per cell as the quantity has from which it is made. -/
theorem representation_of_field {quantity : Quantity} {field : Field}
    (made : geometry.field name quantity order = .ok field) :
    field.representation = quantity.representation := by
  cases quantity with
  | uniform value =>
      cases made
      rfl
  | varying values =>
      obtain ⟨_, _, made⟩ := exists_of_bind_eq_ok made
      obtain ⟨_, _, made⟩ := exists_of_bind_eq_ok made
      cases made
      rfl

theorem Fits.name_of_field {quantity : Quantity} {field : Field} (fits : geometry.Fits layout)
    (made : geometry.field name quantity order = .ok field) : field.name = name := by
  cases field with
  | uniform field =>
      cases quantity with
      | uniform value =>
          cases made
          rfl
      | varying values => cases representation_of_field made
  | varying field => exact (fits.frameOf_of_field made).name

/-- Any values that cover the physical region make a field where a new field can be made. -/
theorem Fits.field_varying {values : Tensor Float} {blank : StoredField}
    (fits : geometry.Fits layout)
    (zeroed : StoredField.ofOrder name geometry.grid order = .ok blank)
    (fills : values.shape = geometry.shape) :
    geometry.field name (.varying values) order =
      .ok (.varying (blank.extended values geometry.layer .edge)) := by
  have done := fits.perform_extend (StoredField.frameOf_ofOrder zeroed) fills
  simp only [field, zeroed, bind_ok, Change.result_eq_ok done]
  rfl

end Geometry

/-! ### What a field holds -/

/-- The shape of a storage, which has the layer and the halo on both faces of every axis. -/
def Layout.storageShape (layout : Layout Float) (order : Nat) : List Nat :=
  layout.shape.map fun n => n + 2 * layout.layer + 2 * order

/-- A field of a medium holds a quantity.  One value is stored rounded.  Values per point are repeated
over the layer and the halo: a cell of the storage holds the value of the nearest point of the physical
region, to which `rule` was applied before it was rounded. -/
def Field.Holds (field : Field) (name : String) (precision : Precision) (layout : Layout Float)
    (order : Nat) (rule : Float → Float) : Quantity → Prop
  | .uniform value => field = .uniform ⟨name, precision, precision.cast (rule value)⟩
  | .varying values =>
      ∃ stored, field = .varying stored ∧
        stored.storage.shape = layout.storageShape order ∧
        ∀ index, InBox stored.storage.shape index →
          ∃ value,
            values.get? (List.zipWith (fun n i => min (i - order - layout.layer) (n - 1))
              layout.shape index) = some value ∧
            stored.storage.get? index = some (precision.cast (rule value))

/-- A field holds a quantity if there is one, and otherwise the value for an absent quantity. -/
def Field.HoldsOr (field : Field) (absent : Float) (name : String) (precision : Precision)
    (layout : Layout Float) (order : Nat) (rule : Float → Float) : Option Quantity → Prop
  | some quantity => field.Holds name precision layout order rule quantity
  | none => field = .uniform ⟨name, precision, absent⟩

namespace Geometry

variable {geometry : Geometry Float} {layout : Layout Float} {name : String} {order : Nat}

theorem Fits.enlarge_eq (fits : geometry.Fits layout) (order : Nat) :
    enlarge geometry.grid.shape (StoredField.evenHalo geometry.grid order) =
      layout.storageShape order := by
  rw [StoredField.evenHalo, Grid.rank, enlarge_even, fits.padded, List.map_map]
  rfl

theorem Fits.shape_storage {field : StoredField} (fits : geometry.Fits layout)
    (frame : field.FrameOf name geometry.grid order) :
    field.storage.shape = layout.storageShape order := by
  rw [frame.stored, fits.enlarge_eq]

theorem Fits.halo_eq {field : StoredField} (fits : geometry.Fits layout)
    (frame : field.FrameOf name geometry.grid order) :
    field.halo = List.replicate layout.shape.length (Margin.even order) := by
  rw [frame.halo, StoredField.evenHalo, Grid.rank, fits.padded, List.length_map]

theorem Fits.margins_eq {field : StoredField} (fits : geometry.Fits layout)
    (frame : field.FrameOf name geometry.grid order) :
    field.margins geometry.layer =
      List.replicate layout.shape.length (Margin.even (layout.layer + order)) := by
  simp [StoredField.margins, fits.halo_eq frame, fits.layer, Margin.even]

theorem Fits.get?_extendedStorage {field : StoredField} {values : Tensor Float}
    (fits : geometry.Fits layout) (frame : field.FrameOf name geometry.grid order)
    (fills : values.shape = geometry.shape) {index : List Nat}
    (inside : InBox field.storage.shape index) :
    ∃ value,
      values.get? (List.zipWith (fun n i => min (i - order - layout.layer) (n - 1))
        layout.shape index) = some value ∧
      (field.extendedStorage values geometry.layer .edge).get? index =
        some (geometry.grid.precision.cast value) := by
  have admitted := fits.admits frame fills
  have ranks := StoredField.length_margins frame.length_halo admitted
  have whole := StoredField.enlarge_margins admitted
  have nearest : nearestCell (field.margins geometry.layer) values.shape index =
      List.zipWith (fun n i => min (i - order - layout.layer) (n - 1)) layout.shape index := by
    rw [fits.margins_eq frame, fills, fits.shape, nearestCell_even]
    congr 1
    funext n i
    rw [Nat.add_comm, Nat.sub_add_eq]
  have positive := values.isEmpty_eq_false_iff.mp admitted.1
  have nearby : InBox values.shape (nearestCell (field.margins geometry.layer) values.shape index) :=
    inBox_nearestCell ranks positive (whole.symm ▸ inside)
  rw [← nearest]
  refine ⟨_, Tensor.get?_eq_getD nearby 0.0, ?_⟩
  rw [StoredField.extendedStorage, Tensor.get?_map, Tensor.get?_ofFn _ inside, frame.precision]
  rfl

/-- A field that is made from the values of a rule holds what the rule was applied to. -/
theorem Fits.holds_field {quantity : Quantity} {rule : Float → Float} {field : Field}
    (fits : geometry.Fits layout)
    (made : geometry.field name (quantity.map rule) order = .ok field) :
    field.Holds name geometry.grid.precision layout order rule quantity := by
  cases quantity with
  | uniform value =>
      cases made
      rfl
  | varying values =>
      obtain ⟨blank, zeroed, fills, rfl⟩ := fits.of_field_varying made
      have frame := StoredField.frameOf_ofOrder zeroed
      refine ⟨_, rfl, fits.shape_storage (frame.extended _ _ _), fun index inside => ?_⟩
      obtain ⟨image, cell, stored⟩ := fits.get?_extendedStorage frame fills inside
      rw [Tensor.get?_map, Option.map_eq_some_iff] at cell
      obtain ⟨value, found, rfl⟩ := cell
      exact ⟨value, found, stored⟩

end Geometry

end WaveMedium
