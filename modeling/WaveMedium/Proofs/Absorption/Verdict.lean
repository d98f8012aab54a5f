/-
Module: WaveMedium.Proofs.Absorption.Verdict
Purpose: On which grids an absorbing layer can be made, and what is answered on the others.
Main exports:
  Absorption.exists_profile, Absorption.exists_fault_of_profile, Absorption.Completes,
  Absorption.field_answer
-/
import WaveMedium.Proofs.Absorption.Field
import WaveMedium.Proofs.Padding.Pointwise
import WaveMedium.Proofs.Views

namespace WaveMedium.Absorption

/-! ### The profile -/

section Profile

variable {interior : List Nat} {width : Nat} {spacing : List Float}

/-- The base of a profile repeats the value of the nearest cell.  It is there unless a layer would have to
repeat a cell of an empty axis. -/
theorem exists_pad_base (role : Role) (fit : SizesFit (interior.map (· + 2 * width)))
    (storable : Storable interior) (free : width = 0 ∨ 0 ∉ interior) :
    ∃ base, (Tensor.full interior role.base).pad
        (List.replicate interior.length (Margin.even width)) .edge = .ok base ∧
      base.shape = interior.map (· + 2 * width) := by
  have even := enlarge_even interior width
  have ranks : (List.replicate interior.length (Margin.even width)).length =
      (Tensor.full interior role.base).shape.length := List.length_replicate
  have counted : SizesFit (enlarge (Tensor.full interior role.base).shape
      (List.replicate interior.length (Margin.even width))) := even.symm ▸ fit
  by_cases empty : 0 ∈ interior
  · obtain rfl : width = 0 := free.resolve_right (not_not_intro empty)
    -- Without a layer the padded box is the interior, which has no cells, so none is repeated.
    have same : enlarge interior (List.replicate interior.length (Margin.even 0)) = interior := by
      simpa using even
    have noCells : ¬ 0 < cellCount (enlarge interior
        (List.replicate interior.length (Margin.even 0))) := by
      rw [same, cellCount_pos_iff]
      intro occupied
      exact Nat.lt_irrefl 0 (occupied 0 empty)
    have stored : Storable (enlarge (Tensor.full interior role.base).shape
        (List.replicate interior.length (Margin.even 0))) := same.symm ▸ storable
    obtain ⟨base, done, pads⟩ :=
      Tensor.pads_of_empty empty ranks counted stored fun wanted => noCells wanted.1
    exact ⟨base, done, pads.shape.trans even⟩
  · have positive : ∀ n ∈ interior, 0 < n := fun n member =>
      Nat.pos_of_ne_zero fun zero => empty (zero ▸ member)
    obtain ⟨base, done, pads⟩ := Tensor.pad_pads .edge positive ranks counted
    exact ⟨base, done, pads.shape.trans even⟩

theorem exists_profile (axes : spacing.length = interior.length) (role : Role)
    (fit : SizesFit (interior.map (· + 2 * width))) (storable : Storable interior)
    (free : width = 0 ∨ 0 ∉ interior) :
    ∃ values, profile interior width spacing role = .ok values ∧
      values.shape = interior.map (· + 2 * width) := by
  obtain ⟨base, done, lengths⟩ := exists_pad_base role fit storable free
  rw [profile_of_axes axes storable, done]
  refine ⟨_, rfl, ?_⟩
  rw [Tensor.shape_foldl (shape_addDistance role width spacing), lengths]

/-- A layer around a region without cells has no value to repeat, if the region can be stored at all. -/
theorem exists_fault_of_profile (axes : spacing.length = interior.length) (role : Role)
    (fit : SizesFit (interior.map (· + 2 * width)))
    (stuck : ¬ Storable interior ∨ 0 < width ∧ 0 ∈ interior) :
    ∃ fault, profile interior width spacing role = .error (.fault fault) := by
  by_cases storable : Storable interior
  case neg => exact ⟨_, profile_of_not_storable axes storable width role⟩
  obtain ⟨wide, empty⟩ := stuck.resolve_left (not_not_intro storable)
  have even := enlarge_even interior width
  have occupied : 0 < cellCount (enlarge interior
      (List.replicate interior.length (Margin.even width))) := by
    rw [even, cellCount_pos_iff]
    intro n member
    obtain ⟨k, _, rfl⟩ := List.mem_map.mp member
    omega
  have unpadded : ∃ fault, (Tensor.full interior role.base).pad
      (List.replicate interior.length (Margin.even width)) .edge = .error (.fault fault) :=
    Tensor.exists_fault_of_pad empty List.length_replicate (even.symm ▸ fit) occupied (.inl rfl)
  obtain ⟨fault, stopped⟩ := unpadded
  refine ⟨fault, ?_⟩
  rw [profile_of_axes axes storable, stopped]
  rfl

end Profile

/-! ### The field -/

/-- The interior of a grid has cells, and a layer around it ends where the grid does. -/
def Completes (grid : Grid Float) (width : Nat) : Prop :=
  (∀ n ∈ grid.interior.lengths, 0 < n) ∧ grid.interior.lengths.map (· + 2 * width) = grid.shape

instance (grid : Grid Float) (width : Nat) : Decidable (Completes grid width) :=
  inferInstanceAs (Decidable (_ ∧ _))

section Field

variable {grid : Grid Float} {width : Nat} {spacing : List Float} {role : Role}

/-- Where there is a profile, the field is there if the profile fills the grid.  Otherwise the error tells
both shapes. -/
theorem field_of_profile {values : Tensor Float} (forward : grid.interior.Forward)
    (occupied : ∀ n ∈ grid.shape, 0 < n) (counted : SizesFit grid.shape)
    (made : profile grid.interior.lengths width spacing role = .ok values) :
    (values.shape = grid.shape → ∃ stored, field grid width spacing role = .ok stored) ∧
      (values.shape ≠ grid.shape →
        field grid width spacing role =
          .error (.rejected (.shape fieldName grid.shape values.shape))) := by
  have whole := StoredField.enlarge_evenHalo_zero grid
  obtain ⟨blank, zeroed⟩ := StoredField.exists_ofOrder fieldName (whole.symm ▸ counted)
  have frame := StoredField.frameOf_ofOrder zeroed
  have written : field grid width spacing role = blank.extendFrom values 0 .edge := by
    simp only [field, Region.shape_of_forward forward, made, zeroed, bind_ok]
  rw [written]
  constructor
  · intro fills
    have admitted : blank.Admits values 0 := by
      refine ⟨values.isEmpty_eq_false_iff.mpr (fills ▸ occupied), ?_⟩
      simp [frame.shape_eq, fills]
    exact ⟨_, Change.result_eq_ok
      (StoredField.perform_extend_of_admits .edge frame.length_halo (by decide) admitted)⟩
  · intro apart
    have refused : ¬ blank.Admits values 0 := by
      rintro ⟨_, fills⟩
      exact apart (by simpa [frame.shape_eq] using fills)
    have failed : blank.extendFrom values 0 .edge = _ := Change.result_eq_error
      (StoredField.perform_extend_of_not_admits .edge (by decide) refused)
    simpa [frame.shape_eq, frame.name] using failed

theorem exists_fault_of_field (forward : grid.interior.Forward)
    (axes : spacing.length = grid.interior.lengths.length) (role : Role)
    (fit : SizesFit (grid.interior.lengths.map (· + 2 * width)))
    (stuck : ¬ Storable grid.interior.lengths ∨ 0 < width ∧ 0 ∈ grid.interior.lengths) :
    ∃ fault, field grid width spacing role = .error (.fault fault) := by
  obtain ⟨fault, stopped⟩ := exists_fault_of_profile axes role fit stuck
  refine ⟨fault, ?_⟩
  simp only [field, Region.shape_of_forward forward, stopped, bind_ok]
  rfl

/-- Unless there is a layer around an interior without cells, the lengths decide. -/
theorem completes_iff (occupied : ∀ n ∈ grid.shape, 0 < n)
    (free : width = 0 ∨ 0 ∉ grid.interior.lengths) :
    Completes grid width ↔ grid.interior.lengths.map (· + 2 * width) = grid.shape := by
  refine ⟨And.right, fun fills => ⟨fun n member => Nat.pos_of_ne_zero ?_, fills⟩⟩
  rintro rfl
  have thin : width = 0 := free.resolve_right (not_not_intro member)
  have padded : 0 + 2 * width ∈ grid.shape := fills ▸ List.mem_map_of_mem member
  have := occupied _ padded
  omega

end Field

/-- On a grid that was accepted and whose interior has a shape, an absorbing layer is made exactly if the
interior has cells and ends, with the layer around it, where the grid does.  Otherwise the error tells both
shapes, unless there is a layer around an interior without cells or such an interior is too large to be
stored, which are faults. -/
theorem field_answer {extent origin : List Float} {shape : List Nat} {precision : Precision}
    {interior : Region} {grid : Grid Float} {width : Nat} {spacing : List Float}
    (built : Grid.new extent shape origin precision interior = .ok grid)
    (counted : SizesFit grid.shape) (forward : grid.interior.Forward)
    (fit : SizesFit (grid.interior.lengths.map (· + 2 * width)))
    (axes : spacing.length = grid.rank) (role : Role) :
    (Completes grid width → ∃ stored, field grid width spacing role = .ok stored) ∧
      (¬ Completes grid width → Storable grid.interior.lengths →
        (width = 0 ∨ 0 ∉ grid.interior.lengths) →
          field grid width spacing role =
            .error (.rejected (.shape fieldName grid.shape
              (grid.interior.lengths.map (· + 2 * width))))) ∧
      (¬ Storable grid.interior.lengths ∨ 0 < width ∧ 0 ∈ grid.interior.lengths →
        ∃ fault, field grid width spacing role = .error (.fault fault)) := by
  have formed := Grid.wellFormed_of_new built
  have axes : spacing.length = grid.interior.lengths.length := by
    rw [axes, ← formed.spans, Region.lengths, List.length_map]
  refine ⟨fun complete => ?_, fun incomplete storable free => ?_, fun stuck => ?_⟩
  · have occupied : 0 ∉ grid.interior.lengths := fun empty =>
      Nat.lt_irrefl 0 (complete.1 0 empty)
    obtain ⟨values, made, lengths⟩ :=
      exists_profile axes role fit (storable_of_not_mem occupied) (.inr occupied)
    exact (field_of_profile forward formed.occupied counted made).1 (lengths.trans complete.2)
  · obtain ⟨values, made, lengths⟩ := exists_profile axes role fit storable free
    rw [completes_iff formed.occupied free, ← lengths] at incomplete
    rw [← lengths]
    exact (field_of_profile forward formed.occupied counted made).2 incomplete
  · exact exists_fault_of_field forward axes role fit stuck

/-- A layer of four points completes the interior of a grid, and a layer of three does not. -/
theorem field_answer_section :
    ∃ grid, Grid.new [110.0, 90.0] [12, 10] [-40.0, -40.0] .single ⟨[⟨4, 8⟩, ⟨4, 6⟩]⟩ = .ok grid ∧
      (SizesFit grid.shape ∧ grid.interior.Forward ∧
        SizesFit (grid.interior.lengths.map (· + 2 * 4)) ∧ [10.0, 10.0].length = grid.rank) ∧
      (∃ stored, field grid 4 [10.0, 10.0] .mask = .ok stored) ∧
      field grid 3 [10.0, 10.0] .damping =
        .error (.rejected (.shape fieldName [12, 10] [10, 8])) := by
  have accepted : ∃ grid,
      Grid.new [110.0, 90.0] [12, 10] [-40.0, -40.0] .single ⟨[⟨4, 8⟩, ⟨4, 6⟩]⟩ = .ok grid := ⟨_, rfl⟩
  obtain ⟨grid, built⟩ := accepted
  obtain ⟨shape, interior, _⟩ := Grid.of_new built
  have counted : SizesFit grid.shape := by rw [shape]; decide
  have forward : grid.interior.Forward := by rw [interior]; decide
  have lengths : grid.interior.lengths = [4, 2] := by rw [interior]; rfl
  have axes : [10.0, 10.0].length = grid.rank := by rw [Grid.rank, shape]; rfl
  have four : SizesFit (grid.interior.lengths.map (· + 2 * 4)) := by rw [lengths]; decide
  have three : SizesFit (grid.interior.lengths.map (· + 2 * 3)) := by rw [lengths]; decide
  obtain ⟨fills, _, _⟩ := field_answer built counted forward four axes .mask
  obtain ⟨_, apart, _⟩ := field_answer built counted forward three axes .damping
  simp only [Completes, lengths, shape] at fills apart
  exact ⟨grid, built, ⟨counted, forward, four, axes⟩, fills (by decide),
    apart (by decide) (by decide) (by decide)⟩

/-- An interior between two points of a line has a shape, but no value that a layer could repeat. -/
theorem not_field_answer_emptyInterior :
    ∃ grid fault, Grid.new [20.0] [3] [0.0] .double ⟨[⟨1, 1⟩]⟩ = .ok grid ∧
      grid.interior.shape = .ok [0] ∧
      field grid 1 [10.0] .damping = .error (.fault fault) := by
  have accepted : ∃ grid, Grid.new [20.0] [3] [0.0] .double ⟨[⟨1, 1⟩]⟩ = .ok grid := ⟨_, rfl⟩
  obtain ⟨grid, built⟩ := accepted
  obtain ⟨_, interior, _⟩ := Grid.of_new built
  have forward : grid.interior.Forward := by rw [interior]; decide
  have lengths : grid.interior.lengths = [0] := by rw [interior]; rfl
  have fit : SizesFit (grid.interior.lengths.map (· + 2 * 1)) := by rw [lengths]; decide
  have axes : [10.0].length = grid.interior.lengths.length := by rw [lengths]; rfl
  obtain ⟨fault, stopped⟩ :=
    exists_fault_of_field forward axes .damping fit (.inr ⟨by decide, by rw [lengths]; decide⟩)
  exact ⟨grid, fault, built, by rw [interior]; rfl, stopped⟩

end WaveMedium.Absorption
