/-
Module: WaveMedium.Proofs.Halo
Purpose: Which halos leave a field on a grid that can be filled, and what is answered with the others.
Main exports:
  StoredField.shape_of_zeros, StoredField.exists_fault_of_extend, StoredField.fill_of_zeros
-/
import WaveMedium.Proofs.Writing

namespace WaveMedium.StoredField

open Change

/-! ### New fields with a halo of any length -/

section Zeros

variable {name : String} {grid : Grid Float} {halo : List Margin} {field : StoredField}

/-- The axes of the grid for which there is no halo are lost. -/
theorem shape_of_zeros (zeroed : zeros name grid halo = .ok field) :
    field.shape = grid.shape.take halo.length := by
  obtain ⟨_, halos, _, stored⟩ := of_zeros zeroed
  rw [shape, stored, halos, shrink_enlarge_take]

theorem shape_of_zeros_eq_iff (zeroed : zeros name grid halo = .ok field) :
    field.shape = grid.shape ↔ grid.rank ≤ halo.length := by
  rw [shape_of_zeros zeroed]
  constructor
  · intro whole
    have lengths := congrArg List.length whole
    rw [List.length_take] at lengths
    unfold Grid.rank
    omega
  · exact List.take_of_length_le

theorem length_storage_of_zeros (zeroed : zeros name grid halo = .ok field) :
    field.storage.shape.length = min grid.rank halo.length := by
  obtain ⟨_, _, _, stored⟩ := of_zeros zeroed
  rw [stored, enlarge, List.length_zipWith, Grid.rank]

end Zeros

/-- Where the halo is given for more axes than are stored, values that fit cannot be padded. -/
theorem exists_fault_of_extend {field : StoredField} {values : Tensor Float} {layer : Nat}
    (filling : Filling) (longer : field.storage.shape.length < field.halo.length)
    (small : 2 * layer < sizeLimit) (admitted : field.Admits values layer) :
    ∃ fault, (extend values layer filling).perform field = (.error (.fault fault), field) := by
  have accepted : ¬ (values.shape ≠ field.shape.map (· - 2 * layer) ∨ values.isEmpty = true) :=
    (admits_iff field values layer).mp admitted
  have ranks : (field.margins layer).length ≠ values.shape.length := by
    rw [margins, List.length_map, admitted.length_eq, Nat.min_eq_left (Nat.le_of_lt longer)]
    exact Nat.ne_of_gt longer
  by_cases fit : SizesFit ((field.margins layer).flatMap fun margin => [margin.before, margin.after])
  · refine ⟨.rankMismatch, ?_⟩
    simp only [extend, perform_bind, perform_get, perform_lift, if_neg accepted,
      checkSizes_of_fit (sizesFit_layers field small), checkSizes_of_fit fit,
      Tensor.pad_of_ranks_ne filling ranks]
  · refine ⟨.sizeOverflow, ?_⟩
    simp only [extend, perform_bind, perform_get, perform_lift, if_neg accepted,
      checkSizes_of_fit (sizesFit_layers field small), checkSizes_of_not_fit fit]

/-! ### Filling -/

/-- A field can be made with a halo for any number of axes, and keeps it.  It has the shape of its grid exactly
if no axis is left without a halo.  Values that do not fit are rejected with both shapes.  Values that fit are
written, unless there is a halo for more axes than the grid has: then they are a fault. -/
theorem fill_of_zeros (name : String) (grid : Grid Float) (halo : List Margin)
    (fit : SizesFit (enlarge grid.shape halo)) :
    ∃ field, zeros name grid halo = .ok field ∧ field.halo = halo ∧
      (field.shape = grid.shape ↔ grid.rank ≤ halo.length) ∧
      ∀ values layer filling, 2 * layer < sizeLimit →
        (¬ field.Admits values layer →
          (extend values layer filling).perform field =
            (.error (.rejected (.shape name (field.shape.map (· - 2 * layer)) values.shape)),
              field)) ∧
        (field.Admits values layer → halo.length ≤ grid.rank →
          (extend values layer filling).perform field =
            (.ok (), field.extended values layer filling)) ∧
        (field.Admits values layer → grid.rank < halo.length →
          ∃ fault, (extend values layer filling).perform field = (.error (.fault fault), field)) := by
  obtain ⟨field, zeroed⟩ := exists_zeros name fit
  obtain ⟨names, halos, _, _⟩ := of_zeros zeroed
  have stored := length_storage_of_zeros zeroed
  refine ⟨field, zeroed, halos, shape_of_zeros_eq_iff zeroed, fun values layer filling small =>
    ⟨fun refused => ?_, fun admitted enough => ?_, fun admitted longer => ?_⟩⟩
  · rw [perform_extend_of_not_admits filling small refused, names]
  · have ranks : field.halo.length = field.storage.shape.length := by
      rw [halos, stored, Nat.min_eq_right enough]
    exact perform_extend_of_admits filling ranks small admitted
  · have more : field.storage.shape.length < field.halo.length := by
      rw [halos, stored, Nat.min_eq_left (Nat.le_of_lt longer)]
      exact longer
    exact exists_fault_of_extend filling more small admitted

/-- With a halo for both axes of a grid two by one values fit inside a layer of one point, and three by one do
not. -/
theorem fill_of_zeros_lopsided :
    SizesFit (enlarge lopsidedGrid.shape [⟨1, 2⟩, ⟨0, 3⟩]) ∧ 2 * 1 < sizeLimit ∧
      ∃ field, zeros "vp" lopsidedGrid [⟨1, 2⟩, ⟨0, 3⟩] = .ok field ∧
        field.halo.length = lopsidedGrid.rank ∧ field.shape = lopsidedGrid.shape ∧
        (∃ filled, (extend (Tensor.full [2, 1] 0.1) 1 .edge).perform field = (.ok (), filled)) ∧
        (extend (Tensor.full [3, 1] 0.1) 1 .edge).perform field =
          (.error (.rejected (.shape "vp" [2, 1] [3, 1])), field) := by
  have fit : SizesFit (enlarge lopsidedGrid.shape [⟨1, 2⟩, ⟨0, 3⟩]) := by decide
  have small : 2 * 1 < sizeLimit := by decide
  obtain ⟨field, zeroed, halos, shapes, answers⟩ :=
    fill_of_zeros "vp" lopsidedGrid [⟨1, 2⟩, ⟨0, 3⟩] fit
  have shape : field.shape = lopsidedGrid.shape := shapes.mpr (by decide)
  have room := (answers (Tensor.full [2, 1] 0.1) 1 .edge small).2.1
  have noRoom := (answers (Tensor.full [3, 1] 0.1) 1 .edge small).1
  simp only [Admits, shape] at room noRoom
  exact ⟨fit, small, field, zeroed, by rw [halos]; rfl, shape, ⟨_, room (by decide) (by decide)⟩,
    noRoom (by decide)⟩

/-- A line with a halo for two axes.  The field that is made has both, and values that fit inside the layer
cannot be written. -/
theorem not_fill_of_zeros_longer :
    ∃ field fault, zeros "f" stripGrid [⟨1, 1⟩, ⟨0, 0⟩] = .ok field ∧
      field.halo.length ≠ stripGrid.rank ∧ field.shape = stripGrid.shape ∧
      (extend (Tensor.full [3] 1.0) 1 .edge).perform field = (.error (.fault fault), field) := by
  have fit : SizesFit (enlarge stripGrid.shape [⟨1, 1⟩, ⟨0, 0⟩]) := by decide
  obtain ⟨field, zeroed⟩ := exists_zeros "f" fit
  obtain ⟨_, halos, _, _⟩ := of_zeros zeroed
  have shape : field.shape = stripGrid.shape := shape_of_zeros zeroed
  have longer : field.storage.shape.length < field.halo.length := by
    rw [halos, length_storage_of_zeros zeroed]
    decide
  have admitted : field.Admits (Tensor.full [3] 1.0) 1 := by
    rw [Admits, shape]
    decide
  obtain ⟨fault, stopped⟩ := exists_fault_of_extend .edge longer (by decide) admitted
  exact ⟨field, fault, zeroed, by rw [halos]; decide, shape, stopped⟩

end WaveMedium.StoredField
