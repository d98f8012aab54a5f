/-
Module: WaveMedium.Proofs.Window
Purpose: Which stored value a view of a field shows at an index.
Main exports:
  StoredField.get?_data, Region.lengths, Region.place, Region.Forward, Region.Within,
  Region.shape_of_forward, Region.crop_of_within, Region.inset_eq_ok, Region.crop_inset
-/
import WaveMedium.Field.Stored
import WaveMedium.Proofs.Padding

namespace WaveMedium

/-! ### Without the halo -/

namespace StoredField

@[simp] theorem shape_data (field : StoredField) : field.data.shape = field.shape := by
  simp [data, shape, shrink, List.map_zipWith]

/-- The storage is the padded grid with the halo around it. -/
theorem enlarge_shape (field : StoredField) : enlarge field.shape field.halo = field.storage.shape :=
  enlarge_shrink field.haloFits

theorem length_shape_le (field : StoredField) : field.shape.length ≤ field.halo.length := by
  simp only [shape, shrink, List.length_zipWith]
  exact Nat.min_le_right _ _

end StoredField

/-- The windows inside a halo begin where its left side ends. -/
theorem shift_haloWindows {shape : List Nat} {halo : List Margin} {index : List Nat}
    (inside : InBox (shrink shape halo) index) :
    Window.shift
        (List.zipWith (fun n margin => ⟨margin.before, n - margin.before - margin.after⟩) shape halo)
        index =
      Margin.shift halo index := by
  induction shape generalizing halo index with
  | nil =>
      cases index with
      | nil => cases halo <;> rfl
      | cons i index => cases halo <;> exact absurd inside id
  | cons n shape ih =>
      cases halo with
      | nil =>
          cases index with
          | nil => rfl
          | cons i index => exact absurd inside id
      | cons margin halo =>
          cases index with
          | nil => exact absurd inside id
          | cons i index =>
              have rest := ih inside.2
              simp only [Window.shift, Margin.shift, List.zipWith_cons_cons] at rest ⊢
              rw [rest]

/-- A point of the padded grid shows the stored value behind the left side of the halo. -/
theorem StoredField.get?_data (field : StoredField) {index : List Nat}
    (inside : InBox field.shape index) :
    field.data.get? index = field.storage.get? (Margin.shift field.halo index) := by
  have stored : InBox field.storage.shape (Margin.shift field.halo index) := by
    rw [← field.enlarge_shape]
    exact inBox_shift field.length_shape_le inside
  have windowed : InBox field.data.shape index := by
    rw [field.shape_data]
    exact inside
  calc field.data.get? index
      = some (field.storage.getD (Window.shift _ index) 0.0) := Tensor.get?_ofFn _ windowed
    _ = some (field.storage.getD (Margin.shift field.halo index) 0.0) := by
        rw [shift_haloWindows inside]
    _ = field.storage.get? (Margin.shift field.halo index) := (Tensor.get?_eq_getD stored 0.0).symm

/-! ### The cells of a region -/

/-- There is one span for each axis.  It ends on the axis, and not before it starts. -/
def SpansWithin : List Span → List Nat → Prop
  | [], [] => True
  | span :: spans, n :: shape =>
      (span.start ≤ span.stop ∧ span.stop ≤ n) ∧ SpansWithin spans shape
  | _, _ => False

instance decidableSpansWithin :
    (spans : List Span) → (shape : List Nat) → Decidable (SpansWithin spans shape)
  | [], [] => isTrue trivial
  | _ :: spans, _ :: shape =>
      have := decidableSpansWithin spans shape
      inferInstanceAs (Decidable (_ ∧ _))
  | [], _ :: _ => isFalse id
  | _ :: _, [] => isFalse id

namespace Region

/-- How many cells of each axis a region selects. -/
def lengths (region : Region) : List Nat := region.spans.map fun span => span.stop - span.start

/-- The index in a box of an index in what a region selects from it. -/
def place (region : Region) (index : List Nat) : List Nat :=
  List.zipWith (fun span i => span.start + i) region.spans index

/-- No span ends before it starts. -/
def Forward (region : Region) : Prop := ∀ span ∈ region.spans, span.start ≤ span.stop

instance (region : Region) : Decidable region.Forward :=
  inferInstanceAs (Decidable (∀ span ∈ region.spans, span.start ≤ span.stop))

/-- A region lies inside a box. -/
def Within (region : Region) (shape : List Nat) : Prop := SpansWithin region.spans shape

instance (region : Region) (shape : List Nat) : Decidable (region.Within shape) :=
  inferInstanceAs (Decidable (SpansWithin region.spans shape))

theorem shape_of_forward {region : Region} (forward : region.Forward) :
    region.shape = .ok region.lengths := by
  have ordered : region.spans.all (fun span => span.start ≤ span.stop) = true := by
    simpa [Forward] using forward
  rw [shape, if_pos ordered]
  rfl

theorem shape_of_not_forward {region : Region} (reversed : ¬ region.Forward) :
    region.shape = .error (.fault .sizeUnderflow) := by
  have disordered : ¬ region.spans.all (fun span => span.start ≤ span.stop) = true := by
    simpa [Forward] using reversed
  rw [shape, if_neg disordered]

end Region

theorem Span.bound_of_le {length value : Nat} (small : value ≤ length) :
    Span.bound length value = .ok value := if_pos small

theorem Span.window_of_le {span : Span} {length : Nat} (forward : span.start ≤ span.stop)
    (ends : span.stop ≤ length) :
    span.window length = .ok ⟨span.start, span.stop - span.start⟩ := by
  simp only [Span.window, Span.bound_of_le (Nat.le_trans forward ends), Span.bound_of_le ends]
  rfl

theorem windows_of_within {spans : List Span} {shape : List Nat} (within : SpansWithin spans shape) :
    windows spans shape =
      .ok (spans.map fun span => ⟨span.start, span.stop - span.start⟩) := by
  induction shape generalizing spans with
  | nil =>
      cases spans with
      | nil => rfl
      | cons span spans => exact absurd within id
  | cons n shape ih =>
      cases spans with
      | nil => exact absurd within id
      | cons span spans =>
          simp only [windows, Span.window_of_le within.1.1 within.1.2, ih within.2]
          rfl

namespace Region

theorem inBox_place {region : Region} {shape index : List Nat} (within : region.Within shape)
    (inside : InBox region.lengths index) : InBox shape (region.place index) := by
  obtain ⟨spans⟩ := region
  induction shape generalizing spans index with
  | nil =>
      cases spans with
      | nil => trivial
      | cons span spans => exact absurd within id
  | cons n shape ih =>
      cases spans with
      | nil => exact absurd within id
      | cons span spans =>
          cases index with
          | nil => exact absurd inside id
          | cons i index =>
              obtain ⟨⟨forward, ends⟩, others⟩ := within
              have small : i < span.stop - span.start := inside.1
              have first : span.start + i < n := by omega
              exact ⟨first, ih spans others inside.2⟩

/-- A region inside a box selects as many cells as its spans are long, and shows the cells behind their
starts. -/
theorem crop_of_within {region : Region} {t : Tensor Float} (within : region.Within t.shape) :
    ∃ slice, region.crop t = .ok slice ∧ slice.shape = region.lengths ∧
      ∀ index, InBox region.lengths index → slice.get? index = t.get? (region.place index) := by
  have chosen : region.crop t =
      .ok (t.window (region.spans.map fun span => ⟨span.start, span.stop - span.start⟩)) := by
    rw [crop, windows_of_within within]
    rfl
  have lengths : (region.spans.map fun span =>
      (⟨span.start, span.stop - span.start⟩ : Window)).map (·.length) = region.lengths := by
    rw [List.map_map]
    rfl
  refine ⟨_, chosen, lengths, fun index inside => ?_⟩
  calc (t.window _).get? index
      = some (t.getD (Window.shift _ index) 0.0) := Tensor.get?_ofFn _ (by rwa [lengths])
    _ = some (t.getD (region.place index) 0.0) := by
        rw [Window.shift, List.zipWith_map_left, place]
    _ = t.get? (region.place index) := (Tensor.get?_eq_getD (inBox_place within inside) 0.0).symm

end Region

/-! ### Inside a layer -/

namespace Region

theorem inset_eq_ok {α : Type} {shape : List Nat} {width : Nat}
    (fit : SizesFit (shape.map (width + ·))) :
    Region.inset (α := α) shape width = .ok ⟨shape.map fun n => ⟨width, width + n⟩⟩ := by
  unfold Region.inset
  rw [checkSizes_of_fit fit]
  rfl

@[simp] theorem lengths_inset (shape : List Nat) (width : Nat) :
    lengths ⟨shape.map fun n => ⟨width, width + n⟩⟩ = shape := by
  simp [lengths, Function.comp_def]

theorem within_inset (shape : List Nat) (width : Nat) :
    Within ⟨shape.map fun n => ⟨width, width + n⟩⟩ (shape.map (· + 2 * width)) := by
  induction shape with
  | nil => trivial
  | cons n shape ih =>
      have ends : width + n ≤ n + 2 * width := by omega
      exact ⟨⟨Nat.le_add_right width n, ends⟩, ih⟩

theorem place_inset {shape index : List Nat} (width : Nat) (inside : InBox shape index) :
    place ⟨shape.map fun n => ⟨width, width + n⟩⟩ index = index.map (width + ·) := by
  induction shape generalizing index with
  | nil =>
      cases index with
      | nil => rfl
      | cons i index => exact absurd inside id
  | cons n shape ih =>
      cases index with
      | nil => exact absurd inside id
      | cons i index =>
          have rest := ih inside.2
          simp only [place, List.map_cons, List.zipWith_cons_cons] at rest ⊢
          rw [rest]

/-- What is left of a padded box when the layer is taken off shows the values behind the layer. -/
theorem crop_inset {t : Tensor Float} {shape : List Nat} {width : Nat}
    (padded : t.shape = shape.map (· + 2 * width)) :
    Region.crop ⟨shape.map fun n => ⟨width, width + n⟩⟩ t =
      .ok (Tensor.ofFn shape fun index => t.getD (index.map (width + ·)) 0.0) := by
  have within := within_inset shape width
  rw [← padded] at within
  obtain ⟨slice, chosen, lengths, cells⟩ := crop_of_within within
  rw [lengths_inset] at lengths cells
  rw [chosen]
  congr 1
  refine Tensor.ext_get? lengths fun index inside => ?_
  rw [lengths] at inside
  have behind := inBox_place within (by rwa [lengths_inset])
  rw [place_inset width inside] at behind
  rw [cells index inside, place_inset width inside, Tensor.get?_ofFn _ inside,
    Tensor.get?_eq_getD behind 0.0]

end Region

end WaveMedium
