/-
Module: WaveMedium.Proofs.Extension
Purpose: Filling a field from values of the physical region succeeds exactly when they fit, keeps
  everything but the stored values, and changes nothing when it fails.
Main exports:
  StoredField.Admits, StoredField.extendedStorage, StoredField.perform_extend_of_admits,
  StoredField.perform_extend_of_not_admits, StoredField.of_perform_extend,
  StoredField.perform_extend_cases, StoredField.extend_contract
-/
import WaveMedium.Proofs.Window

namespace WaveMedium

/-! ### Lengths -/

theorem eq_map_sub_iff {lengths shape : List Nat} (width : Nat) (positive : ∀ n ∈ lengths, 0 < n) :
    lengths = shape.map (· - width) ↔ lengths.map (· + width) = shape := by
  induction lengths generalizing shape with
  | nil => cases shape <;> simp
  | cons n lengths ih =>
      cases shape with
      | nil => simp
      | cons k shape =>
          have axis : 0 < n := positive n (by simp)
          have rest := @ih shape fun k member => positive k (List.mem_cons_of_mem n member)
          have first : n = k - width ↔ n + width = k := by omega
          simp [first, rest]

/-- A layer around the box and a halo around the layer are one margin. -/
theorem enlarge_layer (shape : List Nat) (layer : Nat) (halo : List Margin) :
    enlarge shape (halo.map fun margin => ⟨layer + margin.before, layer + margin.after⟩) =
      enlarge (shape.map (· + 2 * layer)) halo := by
  induction shape generalizing halo with
  | nil => cases halo <;> rfl
  | cons n shape ih =>
      cases halo with
      | nil => rfl
      | cons margin halo =>
          have rest := ih halo
          simp only [enlarge, List.map_cons, List.zipWith_cons_cons] at rest ⊢
          rw [rest]
          congr 1
          omega

theorem sizesFit_shrink {shape : List Nat} (margins : List Margin) (fit : SizesFit shape) :
    SizesFit (shrink shape margins) := by
  induction shape generalizing margins with
  | nil => cases margins <;> exact fit
  | cons n shape ih =>
      cases margins with
      | nil => intro k member; cases member
      | cons margin margins =>
          have first : n < sizeLimit := fit n (List.mem_cons_self ..)
          have rest := ih margins fun k member => fit k (List.mem_cons_of_mem n member)
          intro k member
          rcases List.mem_cons.mp member with same | member
          · have shorter : k = n - margin.before - margin.after := same
            omega
          · exact rest k member

theorem sizesFit_margins {shape : List Nat} {margins : List Margin}
    (ranks : margins.length = shape.length) (fit : SizesFit (enlarge shape margins)) :
    SizesFit (margins.flatMap fun margin => [margin.before, margin.after]) := by
  induction margins generalizing shape with
  | nil => intro n member; cases member
  | cons margin margins ih =>
      cases shape with
      | nil => simp at ranks
      | cons n shape =>
          have whole : n + margin.before + margin.after < sizeLimit :=
            fit _ (List.mem_cons_self ..)
          have others : SizesFit (enlarge shape margins) := fun k member =>
            fit k (List.mem_cons_of_mem _ member)
          have rest := ih (by simpa using ranks) others
          intro k member
          simp only [List.flatMap_cons, List.cons_append, List.nil_append, List.mem_cons] at member
          rcases member with rfl | rfl | member
          · omega
          · omega
          · exact rest k member

namespace StoredField

open Change

/-! ### When values fill a field -/

/-- There are values, and together with a layer of the given width they fill the padded grid. -/
def Admits (field : StoredField) (values : Tensor Float) (layer : Nat) : Prop :=
  values.isEmpty = false ∧ values.shape.map (· + 2 * layer) = field.shape

/-- The storage of a field that was filled from values of the physical region. -/
def extendedStorage (field : StoredField) (values : Tensor Float) (layer : Nat)
    (filling : Filling) : Tensor Float :=
  (Tensor.ofFn field.storage.shape (values.paddedValue (field.margins layer) filling)).map
    field.precision.cast

@[simp] theorem shape_extendedStorage (field : StoredField) (values : Tensor Float) (layer : Nat)
    (filling : Filling) : (field.extendedStorage values layer filling).shape = field.storage.shape :=
  rfl

/-- A field that was filled from values of the physical region. -/
def extended (field : StoredField) (values : Tensor Float) (layer : Nat) (filling : Filling) :
    StoredField :=
  field.withStorage (field.extendedStorage values layer filling)
    (field.shape_extendedStorage values layer filling)

theorem admits_iff (field : StoredField) (values : Tensor Float) (layer : Nat) :
    field.Admits values layer ↔
      ¬ (values.shape ≠ field.shape.map (· - 2 * layer) ∨ values.isEmpty = true) := by
  unfold Admits
  by_cases empty : values.isEmpty = true
  · simp [empty]
  · have present : values.isEmpty = false := by simpa using empty
    have lengths : values.shape = field.shape.map (· - 2 * layer) ↔
        values.shape.map (· + 2 * layer) = field.shape :=
      eq_map_sub_iff (2 * layer) (values.isEmpty_eq_false_iff.mp present)
    simp [present, lengths]

theorem enlarge_margins {field : StoredField} {values : Tensor Float} {layer : Nat}
    (admitted : field.Admits values layer) :
    enlarge values.shape (field.margins layer) = field.storage.shape := by
  unfold margins
  rw [enlarge_layer, admitted.2, field.enlarge_shape]

/-- Values that fit have the axes of the padded grid. -/
theorem Admits.length_eq {field : StoredField} {values : Tensor Float} {layer : Nat}
    (admitted : field.Admits values layer) :
    values.shape.length = min field.storage.shape.length field.halo.length := by
  have padded := congrArg List.length admitted.2
  simpa only [List.length_map, shape, shrink, List.length_zipWith] using padded

theorem length_margins {field : StoredField} {values : Tensor Float} {layer : Nat}
    (halos : field.halo.length = field.storage.shape.length)
    (admitted : field.Admits values layer) :
    (field.margins layer).length = values.shape.length := by
  rw [margins, List.length_map, admitted.length_eq, halos, Nat.min_self]

theorem perform_overwrite {field : StoredField} {values : Tensor Float}
    (same : values.shape = field.storage.shape) :
    (overwrite values).perform field =
      (.ok (), field.withStorage (values.map field.precision.cast) same) := by
  simp only [overwrite, perform_bind, perform_get, same, dif_pos]
  rfl

theorem of_overwrite {field filled : StoredField} {values : Tensor Float}
    (written : (overwrite values).result field = .ok filled) :
    ∃ same : values.shape = field.storage.shape,
      filled = field.withStorage (values.map field.precision.cast) same := by
  by_cases same : values.shape = field.storage.shape
  · rw [result_eq_ok (perform_overwrite same)] at written
    cases written
    exact ⟨same, rfl⟩
  · have refused : (overwrite values).perform field =
        (.error (.rejected (.shape field.name field.storage.shape values.shape)), field) := by
      simp only [overwrite, perform_bind, perform_get, dif_neg same,
        perform_throw]
    rw [result_eq_error refused] at written
    cases written

theorem sizesFit_layers (field : StoredField) {layer : Nat} (small : 2 * layer < sizeLimit) :
    SizesFit (field.shape.map fun _ => 2 * layer) := by
  intro n member
  obtain ⟨_, _, rfl⟩ := List.mem_map.mp member
  exact small

section Counted

variable {field : StoredField} {values : Tensor Float} {layer : Nat}

/-- Values that fit are written, and nothing but the storage changes. -/
theorem perform_extend_eq_ok (filling : Filling)
    (halos : field.halo.length = field.storage.shape.length)
    (layers : SizesFit (field.shape.map fun _ => 2 * layer)) (admitted : field.Admits values layer) :
    (extend values layer filling).perform field =
      (.ok (), field.extended values layer filling) := by
  have ranks := length_margins halos admitted
  have whole := enlarge_margins admitted
  have fit : SizesFit (enlarge values.shape (field.margins layer)) := whole ▸ field.sizesFit
  -- The three checks on the way pass, so the write at the end is reached.
  have accepted : ¬ (values.shape ≠ field.shape.map (· - 2 * layer) ∨ values.isEmpty = true) :=
    (admits_iff field values layer).mp admitted
  have padded := Tensor.pad_eq_ok filling (values.isEmpty_eq_false_iff.mp admitted.1) ranks fit
  rw [whole] at padded
  simp only [extend, perform_bind, perform_get, perform_lift, padded, if_neg accepted,
    checkSizes_of_fit layers, checkSizes_of_fit (sizesFit_margins ranks fit)]
  have filled : (Tensor.ofFn field.storage.shape
      (values.paddedValue (field.margins layer) filling)).shape = field.storage.shape := rfl
  exact perform_overwrite filled

/-- Values that do not fit are rejected before anything is written. -/
theorem perform_extend_eq_error (filling : Filling)
    (layers : SizesFit (field.shape.map fun _ => 2 * layer))
    (refused : ¬ field.Admits values layer) :
    (extend values layer filling).perform field =
      (.error (.rejected (.shape field.name (field.shape.map (· - 2 * layer)) values.shape)),
        field) := by
  have rejected : values.shape ≠ field.shape.map (· - 2 * layer) ∨ values.isEmpty = true :=
    Decidable.not_not.mp (mt (admits_iff field values layer).mpr refused)
  simp only [extend, perform_bind, perform_get, perform_lift, perform_throw, if_pos rejected,
    checkSizes_of_fit layers]

/-- A layer that cannot be counted is a fault before anything is looked at. -/
theorem perform_extend_of_not_fit (filling : Filling)
    (wide : ¬ SizesFit (field.shape.map fun _ => 2 * layer)) :
    (extend values layer filling).perform field = (.error (.fault .sizeOverflow), field) := by
  simp only [extend, perform_bind, perform_get, perform_lift, checkSizes_of_not_fit wide]

/-- Whatever the values and the layer are, a field is filled from them or left as it was. -/
theorem perform_extend_cases (values : Tensor Float) (layer : Nat) (filling : Filling)
    (halos : field.halo.length = field.storage.shape.length) :
    (extend values layer filling).perform field =
        (.ok (), field.extended values layer filling) ∨
      ∃ failure, (extend values layer filling).perform field = (.error failure, field) := by
  by_cases layers : SizesFit (field.shape.map fun _ => 2 * layer)
  · by_cases admitted : field.Admits values layer
    · exact .inl (perform_extend_eq_ok filling halos layers admitted)
    · exact .inr ⟨_, perform_extend_eq_error filling layers admitted⟩
  · exact .inr ⟨_, perform_extend_of_not_fit filling layers⟩

/-- Filling a field succeeds only with values that fit. -/
theorem of_perform_extend {filled : StoredField} {filling : Filling}
    (halos : field.halo.length = field.storage.shape.length)
    (done : (extend values layer filling).perform field = (.ok (), filled)) :
    field.Admits values layer ∧ filled = field.extended values layer filling := by
  by_cases layers : SizesFit (field.shape.map fun _ => 2 * layer)
  · by_cases admitted : field.Admits values layer
    · rw [perform_extend_eq_ok filling halos layers admitted] at done
      cases done
      exact ⟨admitted, rfl⟩
    · rw [perform_extend_eq_error filling layers admitted] at done
      cases done
  · rw [perform_extend_of_not_fit filling layers] at done
    cases done

theorem perform_extend_of_admits (filling : Filling)
    (halos : field.halo.length = field.storage.shape.length) (small : 2 * layer < sizeLimit)
    (admitted : field.Admits values layer) :
    (extend values layer filling).perform field =
      (.ok (), field.extended values layer filling) :=
  perform_extend_eq_ok filling halos (sizesFit_layers field small) admitted

theorem perform_extend_of_not_admits (filling : Filling) (small : 2 * layer < sizeLimit)
    (refused : ¬ field.Admits values layer) :
    (extend values layer filling).perform field =
      (.error (.rejected (.shape field.name (field.shape.map (· - 2 * layer)) values.shape)),
        field) :=
  perform_extend_eq_error filling (sizesFit_layers field small) refused

end Counted

/-! ### What a filled field shows -/

/-- Behind the layer and behind the halo is behind the margin of both. -/
theorem shift_margins (field : StoredField) (layer : Nat) (index : List Nat) :
    Margin.shift field.halo (index.map (layer + ·)) =
      Margin.shift (field.margins layer) index := by
  simp only [Margin.shift, margins, List.zipWith_map_left, List.zipWith_map_right]
  congr 1
  funext margin i
  omega

theorem inBox_layer {shape index : List Nat} (layer : Nat) (inside : InBox shape index) :
    InBox (shape.map (· + 2 * layer)) (index.map (layer + ·)) := by
  induction shape generalizing index with
  | nil =>
      cases index with
      | nil => trivial
      | cons i index => exact absurd inside id
  | cons n shape ih =>
      cases index with
      | nil => exact absurd inside id
      | cons i index =>
          have small : i < n := inside.1
          have first : layer + i < n + 2 * layer := by omega
          exact ⟨first, ih inside.2⟩

/-- Behind the layer a filled field shows the value that was supplied there, rounded. -/
theorem get?_data_extended {field : StoredField} {values : Tensor Float} {layer : Nat}
    (filling : Filling) (halos : field.halo.length = field.storage.shape.length)
    (admitted : field.Admits values layer) {index : List Nat} (inside : InBox values.shape index) :
    (field.extended values layer filling).data.get? (index.map (layer + ·)) =
      (values.map field.precision.cast).get? index := by
  have ranks := length_margins halos admitted
  have padded : InBox field.shape (index.map (layer + ·)) := by
    rw [← admitted.2]
    exact inBox_layer layer inside
  have stored : InBox field.storage.shape (Margin.shift (field.margins layer) index) := by
    rw [← enlarge_margins admitted]
    exact inBox_shift (Nat.le_of_eq ranks.symm) inside
  obtain ⟨nearest, covered⟩ := nearestCell_shift ranks inside
  have here : values.paddedValue (field.margins layer) filling
      (Margin.shift (field.margins layer) index) = values.getD index 0.0 := by
    unfold Tensor.paddedValue
    rw [covered, nearest]
    cases filling <;> rfl
  have behind : (field.extended values layer filling).data.get? (index.map (layer + ·)) =
      (field.extendedStorage values layer filling).get? (Margin.shift (field.margins layer) index) := by
    rw [← shift_margins]
    exact get?_data _ (by rwa [extended, shape_withStorage])
  rw [behind, extendedStorage, Tensor.get?_map, Tensor.get?_ofFn _ stored, here,
    Tensor.get?_map, Tensor.get?_eq_getD inside 0.0]

/-- In the physical region a filled field shows the values that it was filled from, rounded. -/
theorem interior_extended {field : StoredField} {values : Tensor Float} {layer : Nat}
    (filling : Filling) (halos : field.halo.length = field.storage.shape.length)
    (admitted : field.Admits values layer) :
    (Region.inset values.shape layer >>= (field.extended values layer filling).interior) =
      .ok (values.map field.precision.cast) := by
  have fit : SizesFit (values.shape.map (layer + ·)) := by
    intro n member
    obtain ⟨k, axis, rfl⟩ := List.mem_map.mp member
    have whole : k + 2 * layer ∈ field.shape := by
      rw [← admitted.2]
      exact List.mem_map_of_mem axis
    have counted : k + 2 * layer < sizeLimit :=
      sizesFit_shrink field.halo field.sizesFit _ whole
    omega
  have padded : (field.extended values layer filling).data.shape =
      values.shape.map (· + 2 * layer) := by
    rw [shape_data, extended, shape_withStorage, admitted.2]
  rw [Region.inset_eq_ok fit]
  change Region.crop _ _ = _
  rw [Region.crop_inset padded]
  congr 1
  refine Tensor.ext_get? rfl fun index inside => ?_
  rw [Tensor.shape_ofFn] at inside
  rw [Tensor.get?_ofFn _ inside, ← get?_data_extended filling halos admitted inside]
  refine (Tensor.get?_eq_getD ?_ 0.0).symm
  rw [padded]
  exact inBox_layer layer inside

/-- Filling a field from values of the physical region succeeds exactly when there are values and,
with the layer around them, they are as long as the padded grid on every axis.  It then keeps
everything but the stored values, and the physical region shows the supplied values rounded.
Otherwise the error tells the lengths that were expected, and the field is left as it was. -/
theorem extend_contract (field : StoredField) (values : Tensor Float) (layer : Nat)
    (filling : Filling) (halos : field.halo.length = field.storage.shape.length)
    (small : 2 * layer < sizeLimit) :
    (values.isEmpty = false ∧ values.shape.map (· + 2 * layer) = field.shape →
      ∃ filled, (extend values layer filling).perform field = (.ok (), filled) ∧
        filled.storage.shape = field.storage.shape ∧ filled.name = field.name ∧
        filled.halo = field.halo ∧ filled.spaceOrder = field.spaceOrder ∧
        filled.precision = field.precision ∧
        (Region.inset values.shape layer >>= filled.interior) =
          .ok (values.map field.precision.cast)) ∧
      (¬ (values.isEmpty = false ∧ values.shape.map (· + 2 * layer) = field.shape) →
        (extend values layer filling).perform field =
          (.error (.rejected (.shape field.name (field.shape.map (· - 2 * layer)) values.shape)),
            field)) := by
  constructor
  · intro admitted
    exact ⟨field.extended values layer filling,
      perform_extend_of_admits filling halos small admitted, rfl, rfl, rfl, rfl, rfl,
      interior_extended filling halos admitted⟩
  · intro refused
    exact perform_extend_of_not_admits filling small refused

/-- A field of zeros on a padded grid of four by three points, with a halo that is wider on the right. -/
def lopsidedField : StoredField where
  name := "vp"
  halo := [⟨1, 2⟩, ⟨0, 3⟩]
  spaceOrder := 3
  precision := .single
  storage := Tensor.full (enlarge [4, 3] [⟨1, 2⟩, ⟨0, 3⟩]) 0.0
  haloFits := marginsFit_enlarge _ _
  sizesFit := by decide

/-- Inside a layer of one point there is room for two by one values, and not for three by one. -/
theorem extend_contract_lopsided :
    (lopsidedField.halo.length = lopsidedField.storage.shape.length ∧ 2 * 1 < sizeLimit) ∧
      (∃ filled, (extend (Tensor.full [2, 1] 0.1) 1 .edge).perform lopsidedField = (.ok (), filled) ∧
        (Region.inset [2, 1] 1 >>= filled.interior) =
          .ok ((Tensor.full [2, 1] 0.1).map Precision.single.cast)) ∧
      (extend (Tensor.full [3, 1] 0.1) 1 .edge).perform lopsidedField =
        (.error (.rejected (.shape "vp" [2, 1] [3, 1])), lopsidedField) := by
  have halos : lopsidedField.halo.length = lopsidedField.storage.shape.length := rfl
  have small : 2 * 1 < sizeLimit := by decide
  have room := (extend_contract lopsidedField (Tensor.full [2, 1] 0.1) 1 .edge halos small).1
    (by decide)
  have noRoom := (extend_contract lopsidedField (Tensor.full [3, 1] 0.1) 1 .edge halos small).2
    (by decide)
  obtain ⟨filled, written, _, _, _, _, _, shown⟩ := room
  exact ⟨⟨halos, small⟩, ⟨filled, written, shown⟩, noRoom⟩

end StoredField

end WaveMedium
