/-
Module: WaveMedium.Proofs.Absorption.Field
Purpose: The absorbing layer of a geometry can always be made, shows the base value in the physical
  region, and looks the same from both ends of every axis.
Main exports:
  Geometry.Fits.exists_absorption, Mirrors, Absorption.Encloses, Geometry.Fits.encloses_absorption
-/
import WaveMedium.Proofs.Absorption.Profile
import WaveMedium.Proofs.Geometry

namespace WaveMedium

theorem Region.shape_inset (shape : List Nat) (width : Nat) :
    Region.shape ⟨shape.map fun n => ⟨width, width + n⟩⟩ = .ok shape := by
  have forward : Forward ⟨shape.map fun n => ⟨width, width + n⟩⟩ := by
    simp [Forward]
  rw [shape_of_forward forward, lengths_inset]

/-! ### The stored profile -/

/-- Without a margin every cell is the nearest to itself. -/
theorem nearestCell_even_zero {shape index : List Nat} (inside : InBox shape index) :
    nearestCell (List.replicate shape.length (Margin.even 0)) shape index = index := by
  rw [nearestCell_even]
  induction shape generalizing index with
  | nil =>
      cases index with
      | nil => rfl
      | cons i index => exact absurd inside id
  | cons n shape ih =>
      cases index with
      | nil => exact absurd inside id
      | cons i index =>
          have small : i < n := inside.1
          have here : min (i - 0) (n - 1) = i := by omega
          rw [List.zipWith_cons_cons, here, ih inside.2]

/-- A field for a stencil of order zero has no halo. -/
theorem StoredField.enlarge_evenHalo_zero (grid : Grid Float) :
    enlarge grid.shape (evenHalo grid 0) = grid.shape := by
  simp [evenHalo, Grid.rank, enlarge_even]

namespace Geometry

open Absorption

variable {geometry : Geometry Float} {layout : Layout Float}

/-- A layer can be made for every geometry.  It stores the profile, rounded. -/
theorem Fits.exists_absorption (fits : geometry.Fits layout)
    (axes : geometry.spacing.length = layout.shape.length) (role : Role) :
    ∃ field, geometry.absorption role = .ok field ∧
      field.FrameOf fieldName geometry.grid 0 ∧
      ∀ index, InBox geometry.grid.shape index →
        field.storage.get? index =
          some (geometry.grid.precision.cast
            (accumulate role geometry.layer geometry.spacing
              (layerRows geometry.grid.shape geometry.layer index))) := by
  have padded := fits.padded
  rw [← fits.layer] at padded
  have made : profile layout.shape geometry.layer geometry.spacing role = _ :=
    profile_eq_ok axes fits.positive (padded ▸ fits.counted)
  rw [← padded] at made
  have whole := StoredField.enlarge_evenHalo_zero geometry.grid
  obtain ⟨blank, zeroed⟩ := StoredField.exists_ofOrder fieldName (whole.symm ▸ fits.counted)
  have frame := StoredField.frameOf_ofOrder zeroed
  have stored : blank.storage.shape = geometry.grid.shape := frame.stored.trans whole
  -- The profile contains the layer, so it is written without a further one.
  obtain ⟨values, made, lengths, cells⟩ : ∃ values : Tensor Float,
      profile layout.shape geometry.layer geometry.spacing role = .ok values ∧
        values.shape = geometry.grid.shape ∧ ∀ index, InBox geometry.grid.shape index →
          values.get? index = some (accumulate role geometry.layer geometry.spacing
            (layerRows geometry.grid.shape geometry.layer index)) :=
    ⟨_, made, rfl, fun _ inside => Tensor.get?_ofFn _ inside⟩
  have admitted : blank.Admits values 0 := by
    refine ⟨values.isEmpty_eq_false_iff.mpr ?_, by simp [frame.shape_eq, lengths]⟩
    rw [lengths, padded]
    intro n member
    obtain ⟨k, axis, rfl⟩ := List.mem_map.mp member
    have := fits.positive k axis
    omega
  have done := StoredField.perform_extend_of_admits .edge frame.length_halo (by decide) admitted
  refine ⟨blank.extended values 0 .edge, ?_, frame.extended _ _ _, fun index inside => ?_⟩
  · simp only [absorption, Absorption.field, fits.interior, Region.shape_inset, made, zeroed, bind_ok]
    exact Change.result_eq_ok done
  · have margins : blank.margins 0 = List.replicate values.shape.length (Margin.even 0) := by
      simp [StoredField.margins, frame.halo, StoredField.evenHalo, Grid.rank, lengths, Margin.even]
    have here : values.paddedValue (blank.margins 0) .edge index = values.getD index 0.0 := by
      change values.getD (nearestCell _ _ _) 0.0 = _
      rw [margins, nearestCell_even_zero (lengths ▸ inside)]
    change (blank.extendedStorage values 0 .edge).get? index = _
    rw [StoredField.extendedStorage, Tensor.get?_map, Tensor.get?_ofFn _ (stored ▸ inside), here,
      Tensor.getD_eq (cells index inside), frame.precision]
    rfl

end Geometry

/-! ### Both ends of an axis -/

/-- Every coordinate of the second index is that of the first, or its mirror image on the axis. -/
def Mirrors : List Nat → List Nat → List Nat → Prop
  | [], [], [] => True
  | n :: shape, i :: index, j :: other => (j = i ∨ j = n - 1 - i) ∧ Mirrors shape index other
  | _, _, _ => False

instance decidableMirrors : (shape index other : List Nat) → Decidable (Mirrors shape index other)
  | [], [], [] => isTrue trivial
  | _ :: shape, _ :: index, _ :: other =>
      have := decidableMirrors shape index other
      inferInstanceAs (Decidable (_ ∧ _))
  | [], [], _ :: _ => isFalse id
  | [], _ :: _, _ => isFalse id
  | _ :: _, [], _ => isFalse id
  | _ :: _, _ :: _, [] => isFalse id

theorem Mirrors.inBox {shape index other : List Nat} (mirrors : Mirrors shape index other)
    (inside : InBox shape index) : InBox shape other := by
  induction shape generalizing index other with
  | nil =>
      cases index with
      | nil =>
          cases other with
          | nil => trivial
          | cons j other => exact absurd mirrors id
      | cons i index => exact absurd inside id
  | cons n shape ih =>
      cases index with
      | nil => exact absurd inside id
      | cons i index =>
          cases other with
          | nil => exact absurd mirrors id
          | cons j other =>
              have small : i < n := inside.1
              have image : j = i ∨ j = n - 1 - i := mirrors.1
              exact ⟨by omega, ih mirrors.2 inside.2⟩

/-- Mirror images stand equally far from the nearer ends. -/
theorem Mirrors.faceDistances_eq {shape index other : List Nat} (mirrors : Mirrors shape index other)
    (inside : InBox shape index) :
    Absorption.faceDistances shape other = Absorption.faceDistances shape index := by
  induction shape generalizing index other with
  | nil => rfl
  | cons n shape ih =>
      cases index with
      | nil => exact absurd inside id
      | cons i index =>
          cases other with
          | nil => exact absurd mirrors id
          | cons j other =>
              have small : i < n := inside.1
              have image : j = i ∨ j = n - 1 - i := mirrors.1
              have near : min j (n - 1 - j) = min i (n - 1 - i) := by omega
              have rest := ih mirrors.2 inside.2
              simp only [Absorption.faceDistances, List.zipWith_cons_cons, near] at rest ⊢
              rw [rest]

/-! ### The layer around the physical region -/

/-- A field without a halo covers the padded grid, has a base value in the whole physical region, and
stores the same value in cells that are mirror images of each other on any axes. -/
structure Absorption.Encloses (field : StoredField) (geometry : Geometry Float) (base : Float) :
    Prop where
  shape : field.storage.shape = geometry.grid.shape
  noHalo : field.halo = List.replicate geometry.rank ⟨0, 0⟩
  interior : field.interior geometry.grid.interior = .ok (Tensor.full geometry.shape base)
  mirrored : ∀ index other, InBox field.storage.shape index →
    Mirrors field.storage.shape index other → field.storage.get? other = field.storage.get? index

namespace Absorption

/-- A cell of the physical region stands behind the layer on every axis. -/
theorem le_faceDistances_shift {shape index : List Nat} (width : Nat) (inside : InBox shape index) :
    ∀ distance ∈ faceDistances (shape.map (· + 2 * width)) (index.map (width + ·)),
      width ≤ distance := by
  induction shape generalizing index with
  | nil => intro distance member; cases member
  | cons n shape ih =>
      cases index with
      | nil => exact absurd inside id
      | cons i index =>
          intro distance member
          rcases List.mem_cons.mp member with same | member
          · have small : i < n := inside.1
            have least : distance = min (width + i) (n + 2 * width - 1 - (width + i)) := same
            omega
          · exact ih inside.2 distance member

theorem layerRows_of_mirrors {shape index other : List Nat} (width : Nat)
    (mirrors : Mirrors shape index other) (inside : InBox shape index) :
    layerRows shape width other = layerRows shape width index := by
  rw [layerRows, layerRows, mirrors.faceDistances_eq inside]

end Absorption

namespace Geometry

open Absorption

variable {geometry : Geometry Float} {layout : Layout Float}

theorem Fits.encloses_absorption (fits : geometry.Fits layout)
    (axes : geometry.spacing.length = layout.shape.length) {role : Role} {field : StoredField}
    (kept : geometry.grid.precision.cast role.base = role.base)
    (made : geometry.absorption role = .ok field) : Encloses field geometry role.base := by
  obtain ⟨stored, same, frame, cells⟩ := fits.exists_absorption axes role
  rw [same] at made
  cases made
  have halo : field.halo = List.replicate geometry.grid.shape.length (Margin.even 0) := frame.halo
  have lengths : field.storage.shape = geometry.grid.shape := by
    rw [frame.stored, StoredField.enlarge_evenHalo_zero]
  have axesPadded : geometry.grid.shape.length = geometry.rank := by
    rw [fits.padded, List.length_map, rank, fits.shape]
  have padded : field.data.shape = layout.shape.map (· + 2 * layout.layer) := by
    rw [StoredField.shape_data, frame.shape_eq, fits.padded]
  refine ⟨lengths, halo.trans (by rw [axesPadded]; rfl), ?_, fun index other inside mirrors => ?_⟩
  · rw [StoredField.interior, fits.interior, Region.crop_inset padded]
    congr 1
    refine Tensor.ext_get? fits.shape.symm fun index inside => ?_
    rw [Tensor.shape_ofFn] at inside
    rw [Tensor.get?_ofFn _ inside, Tensor.get?_full _ (fits.shape.symm ▸ inside)]
    have behind := StoredField.inBox_layer layout.layer inside
    rw [← fits.padded] at behind
    have shift : Margin.shift field.halo (index.map (layout.layer + ·)) =
        index.map (layout.layer + ·) := by
      rw [halo, ← length_eq_of_inBox behind, shift_even]
      simp
    have value := cells _ behind
    rw [fits.layer, layerRows_eq_nil (fits.padded ▸ le_faceDistances_shift layout.layer inside),
      accumulate_nil, kept, ← shift, ← field.get?_data (frame.shape_eq ▸ behind)] at value
    rw [Tensor.getD_eq value]
  · rw [lengths] at inside mirrors
    rw [cells other (mirrors.inBox inside), cells index inside, layerRows_of_mirrors _ mirrors inside]

end Geometry

end WaveMedium
