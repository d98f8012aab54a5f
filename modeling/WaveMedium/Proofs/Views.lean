/-
Module: WaveMedium.Proofs.Views
Purpose: The interior of a grid can be selected unless one of its spans is reversed, and all views of a
  field count from the same cells.
Main exports:
  Grid.WellFormed, Grid.wellFormed_of_new, Grid.interior_of_new, StoredField.BuiltOn,
  StoredField.views_agree
-/
import WaveMedium.Proofs.Writing

namespace WaveMedium

/-! ### The interior of a grid -/

namespace Grid

/-- The checks that a grid has passed: there is one span for each axis, no axis is empty, and no span ends
behind its axis. -/
structure WellFormed (grid : Grid Float) : Prop where
  spans : grid.interior.spans.length = grid.rank
  occupied : ∀ n ∈ grid.shape, 0 < n
  ends : ∀ axis ∈ grid.interior.spans.zip grid.shape, axis.1.stop ≤ axis.2

section Accepted

variable {extent origin : List Float} {shape : List Nat} {precision : Precision} {interior : Region}
  {grid : Grid Float}

theorem wellFormed_of_new (built : Grid.new extent shape origin precision interior = .ok grid) :
    grid.WellFormed := by
  have free : Grid.defect? extent shape origin interior = none := by
    unfold Grid.new at built
    split at built
    · cases built
    · assumption
  obtain ⟨rfl, rfl, _⟩ := of_new built
  rw [defect?, ite_some_eq_none, ite_some_eq_none, not_or, not_or] at free
  obtain ⟨⟨_, _, spans⟩, occupied, ends⟩ := free
  rw [Option.map_eq_none_iff, List.find?_eq_none] at ends
  exact
    { spans := Decidable.not_not.mp spans
      occupied := fun n member => Nat.pos_of_ne_zero fun zero => occupied (zero ▸ member)
      ends := fun axis member => by simpa using ends axis member }

end Accepted

end Grid

/-- Spans that are not reversed and end on their axes lie inside the box. -/
theorem spansWithin_of_ends {spans : List Span} {shape : List Nat}
    (ranks : spans.length = shape.length) (forward : ∀ span ∈ spans, span.start ≤ span.stop)
    (ends : ∀ axis ∈ spans.zip shape, axis.1.stop ≤ axis.2) : SpansWithin spans shape := by
  induction shape generalizing spans with
  | nil =>
      obtain rfl : spans = [] := List.length_eq_zero_iff.mp ranks
      trivial
  | cons n shape ih =>
      cases spans with
      | nil => simp at ranks
      | cons span spans =>
          rw [List.forall_mem_cons] at forward
          rw [List.zip_cons_cons, List.forall_mem_cons] at ends
          exact ⟨⟨forward.1, ends.1⟩, ih (by simpa using ranks) forward.2 ends.2⟩

namespace Grid

theorem WellFormed.within {grid : Grid Float} (formed : grid.WellFormed)
    (forward : grid.interior.Forward) : grid.interior.Within grid.shape :=
  spansWithin_of_ends formed.spans forward formed.ends

/-- A grid that was accepted has an interior with a shape exactly if no span of the interior is reversed.
From values on the points of the grid the interior then selects as many as its shape says, and shows those
behind the starts of its spans. -/
theorem interior_of_new {extent origin : List Float} {shape : List Nat} {precision : Precision}
    {interior : Region} {grid : Grid Float}
    (built : Grid.new extent shape origin precision interior = .ok grid) (t : Tensor Float)
    (covers : t.shape = grid.shape) :
    if grid.interior.Forward then
      grid.interior.shape = .ok grid.interior.lengths ∧
        ∃ slice, grid.interior.crop t = .ok slice ∧ slice.shape = grid.interior.lengths ∧
          ∀ index, InBox grid.interior.lengths index →
            slice.get? index = t.get? (grid.interior.place index)
    else grid.interior.shape = .error (.fault .sizeUnderflow) := by
  split
  · rename_i forward
    have within := (wellFormed_of_new built).within forward
    rw [← covers] at within
    exact ⟨Region.shape_of_forward forward, Region.crop_of_within within⟩
  · rename_i reversed
    exact Region.shape_of_not_forward reversed

/-- The numbers of six by seven points, ten for each row. -/
def numberedPoints : Tensor Float :=
  Tensor.ofFn [6, 7] fun index => Float.ofNat (index.getD 0 0 * 10 + index.getD 1 0)

/-- Inside a layer of two points. -/
theorem interior_of_new_numberedPoints :
    ∃ grid, Grid.new [50.0, 60.0] [6, 7] [0.0, 0.0] .double ⟨[⟨2, 4⟩, ⟨2, 5⟩]⟩ = .ok grid ∧
      numberedPoints.shape = grid.shape ∧ grid.interior.shape = .ok [2, 3] ∧
      ∃ slice, grid.interior.crop numberedPoints = .ok slice ∧ slice.shape = [2, 3] ∧
        slice.get? [0, 0] = some 22.0 ∧ slice.get? [1, 2] = some 34.0 := by
  have accepted :
      ∃ grid, Grid.new [50.0, 60.0] [6, 7] [0.0, 0.0] .double ⟨[⟨2, 4⟩, ⟨2, 5⟩]⟩ = .ok grid := ⟨_, rfl⟩
  obtain ⟨grid, built⟩ := accepted
  obtain ⟨shapes, interiors, _⟩ := of_new built
  have covers : numberedPoints.shape = grid.shape := by rw [shapes]; rfl
  have forward : grid.interior.Forward := by rw [interiors]; decide
  have lengths : grid.interior.lengths = [2, 3] := by rw [interiors]; rfl
  have selected := interior_of_new built numberedPoints covers
  rw [if_pos forward, lengths] at selected
  obtain ⟨shape, slice, chosen, sliced, cells⟩ := selected
  refine ⟨grid, built, covers, shape, slice, chosen, sliced, ?_, ?_⟩
  · rw [cells [0, 0] (by decide), interiors]
    decide
  · rw [cells [1, 2] (by decide), interiors]
    decide

/-- A span is accepted that starts behind the end of its axis and ends before it starts.  It has no length,
and nothing can be selected. -/
theorem not_interior_of_new_reversed :
    ∃ grid, Grid.new [30.0] [4] [0.0] .double ⟨[⟨5, 2⟩]⟩ = .ok grid ∧
      grid.interior.shape = .error (.fault .sizeUnderflow) ∧
      grid.interior.crop (Tensor.full [4] 0.0) = .error (.fault .outOfRange) :=
  ⟨_, rfl, rfl, rfl⟩

end Grid

/-! ### The views of a field -/

namespace StoredField

/-- A field was made on a grid with a halo for each axis.  Its storage may have been written to since. -/
def BuiltOn (field : StoredField) (grid : Grid Float) : Prop :=
  ∃ made name, ((∃ order, ofOrder name grid order = .ok made) ∨
    ∃ halo, halo.length = grid.rank ∧ zeros name grid halo = .ok made) ∧ field.SameFrame made

section Built

variable {field : StoredField} {grid : Grid Float}

theorem BuiltOn.shape_eq (built : field.BuiltOn grid) : field.shape = grid.shape := by
  obtain ⟨made, name, ⟨order, fresh⟩ | ⟨halo, ranks, zeroed⟩, frame⟩ := built
  · have made := frameOf_ofOrder fresh
    rw [← made.shape_eq, shape, shape, frame.stored, frame.halo]
  · obtain ⟨_, halos, _, stored⟩ := of_zeros zeroed
    rw [shape, frame.stored, frame.halo, halos, stored, shrink_enlarge (Nat.le_of_eq ranks.symm)]

/-- The point of a grid to which a field belongs is stored behind the left side of the halo. -/
theorem BuiltOn.get?_data (built : field.BuiltOn grid) {index : List Nat}
    (inside : InBox grid.shape index) :
    field.data.get? index = field.storage.get? (Margin.shift field.halo index) :=
  field.get?_data (built.shape_eq ▸ inside)

/-- The views of a field agree on the cells that they count from.  Without the halo it has the shape of its
grid, and shows at each point the stored value that many cells further on as the halo has before the axis.
Inside a region of the grid the starts of the region's spans are added to that.  The value at an index is
there exactly if the index is that of a point, also if it has too few or too many coordinates. -/
theorem views_agree (built : field.BuiltOn grid) :
    (field.data.shape = grid.shape ∧ ∀ index, InBox grid.shape index →
      field.data.get? index = field.storage.get? (Margin.shift field.halo index)) ∧
    (∀ region : Region, region.Within grid.shape →
      ∃ view, field.interior region = .ok view ∧ view.shape = region.lengths ∧
        ∀ index, InBox region.lengths index →
          view.get? index = field.storage.get? (Margin.shift field.halo (region.place index))) ∧
    ∀ index, ((Field.varying field).valueAt? index).isSome = grid.contains index ∧
      (grid.contains index = true →
        (Field.varying field).valueAt? index =
          field.storage.get? (Margin.shift field.halo index)) := by
  have shapes : field.data.shape = grid.shape := field.shape_data.trans built.shape_eq
  refine ⟨⟨shapes, fun _ inside => built.get?_data inside⟩, fun region within => ?_, fun index => ⟨?_, ?_⟩⟩
  · rw [← shapes] at within
    obtain ⟨view, chosen, lengths, cells⟩ := Region.crop_of_within within
    refine ⟨view, chosen, lengths, fun index inside => ?_⟩
    rw [cells index inside, built.get?_data (shapes ▸ Region.inBox_place within inside)]
  · change (field.data.get? index).isSome = decide (InBox grid.shape index)
    rw [Tensor.get?_isSome, shapes]
  · intro point
    exact built.get?_data (of_decide_eq_true point)

end Built

/-- The lopsided field with the numbers of its cells in storage. -/
def numberedField : StoredField :=
  lopsidedField.withStorage
    (Tensor.ofFn lopsidedField.storage.shape fun index =>
      Float.ofNat (index.getD 0 0 * 10 + index.getD 1 0))
    (Tensor.shape_ofFn _ _)

/-- The halo takes one row and no column before the grid.  An index with one coordinate is that of no
point. -/
theorem views_agree_numberedField :
    numberedField.BuiltOn lopsidedGrid ∧
      numberedField.data.get? [3, 2] = some 42.0 ∧
      (∃ view, numberedField.interior ⟨[⟨1, 3⟩, ⟨1, 2⟩]⟩ = .ok view ∧ view.shape = [2, 1] ∧
        view.get? [1, 0] = some 31.0) ∧
      (Field.varying numberedField).valueAt? [0, 1] = some 11.0 ∧
      (Field.varying numberedField).valueAt? [1] = none := by
  have built : numberedField.BuiltOn lopsidedGrid :=
    ⟨lopsidedField, "vp", .inr ⟨[⟨1, 2⟩, ⟨0, 3⟩], rfl, rfl⟩, ⟨rfl, rfl, rfl, rfl, rfl⟩⟩
  obtain ⟨⟨_, points⟩, regions, values⟩ := views_agree built
  obtain ⟨view, chosen, lengths, cells⟩ := regions ⟨[⟨1, 3⟩, ⟨1, 2⟩]⟩ (by decide)
  refine ⟨built, ?_, ⟨view, chosen, lengths, ?_⟩, ?_, ?_⟩
  · rw [points [3, 2] (by decide)]
    decide
  · rw [cells [1, 0] (by decide)]
    decide
  · rw [(values [0, 1]).2 (by decide)]
    decide
  · rw [← Option.isNone_iff_eq_none, ← Option.not_isSome, (values [1]).1]
    decide

end StoredField

end WaveMedium
