/-
Module: WaveMedium.Proofs.Padding
Purpose: Which cell each cell of a padded box repeats.
Main exports:
  exists_inBox_iff, Margin.nearest, nearestCell, coversIndex, Margin.shift, Tensor.paddedValue,
  Tensor.pad_eq_ofFnM, Tensor.pad_eq_ok
-/
import WaveMedium.Padding

namespace WaveMedium

/-! ### Boxes with cells -/

theorem exists_inBox_iff {shape : List Nat} : (∃ index, InBox shape index) ↔ ∀ n ∈ shape, 0 < n := by
  induction shape with
  | nil => exact ⟨fun _ n member => absurd member List.not_mem_nil, fun _ => ⟨[], trivial⟩⟩
  | cons n shape ih =>
      rw [List.forall_mem_cons, ← ih]
      constructor
      · rintro ⟨index, inside⟩
        cases index with
        | nil => exact absurd inside id
        | cons i index => exact ⟨Nat.zero_lt_of_lt inside.1, index, inside.2⟩
      · rintro ⟨positive, index, inside⟩
        exact ⟨0 :: index, positive, inside⟩

theorem cellCount_pos_iff (shape : List Nat) : 0 < cellCount shape ↔ ∀ n ∈ shape, 0 < n := by
  rw [← exists_inBox_iff]
  exact ⟨fun occupied => ⟨_, inBox_unravel occupied⟩, fun ⟨_, inside⟩ => Nat.zero_lt_of_lt (offset_lt inside)⟩

theorem not_inBox_of_empty {shape : List Nat} (empty : 0 ∈ shape) (index : List Nat) :
    ¬ InBox shape index :=
  fun inside => Nat.lt_irrefl 0 (exists_inBox_iff.mp ⟨index, inside⟩ 0 empty)

/-! ### The nearest cell -/

/-- The coordinate of an axis of length `n` that stands nearest to coordinate `i` of the padded axis.
Before the margin the subtraction stops at zero. -/
def Margin.nearest (margin : Margin) (n i : Nat) : Nat := min (i - margin.before) (n - 1)

/-- Whether coordinate `i` of the padded axis lies on the axis itself. -/
def Margin.covers (margin : Margin) (n i : Nat) : Bool :=
  decide (margin.before ≤ i ∧ i < margin.before + n)

/-- The cell that stands nearest to an index of the padded box. -/
def nearestCell : List Margin → List Nat → List Nat → List Nat
  | margin :: margins, n :: shape, i :: index =>
      margin.nearest n i :: nearestCell margins shape index
  | _, _, _ => []

/-- Whether an index of the padded box lies over the box itself. -/
def coversIndex : List Margin → List Nat → List Nat → Bool
  | margin :: margins, n :: shape, i :: index =>
      margin.covers n i && coversIndex margins shape index
  | _, _, _ => true

theorem Margin.locate_eq_ok (margin : Margin) {n : Nat} (positive : 0 < n) (i : Nat) :
    margin.locate n i = .ok (margin.nearest n i, !margin.covers n i) := by
  unfold Margin.locate Margin.nearest Margin.covers
  split
  · rename_i left
    have zero : i - margin.before = 0 := by omega
    simp [zero, Nat.not_le.mpr left]
  · split
    · rename_i right inside
      have least : min (i - margin.before) (n - 1) = i - margin.before := by omega
      have covered : margin.before ≤ i ∧ i < margin.before + n := by omega
      simp [least, covered]
    · rename_i left right
      have last : min (i - margin.before) (n - 1) = n - 1 := by omega
      have beyond : ¬ (margin.before ≤ i ∧ i < margin.before + n) := by omega
      simp [last, beyond, Nat.ne_of_gt positive]

/-- On a box without empty axes every index has a nearest cell. -/
theorem locate_eq_ok (margins : List Margin) {shape : List Nat} (positive : ∀ n ∈ shape, 0 < n)
    (index : List Nat) :
    locate margins shape index =
      .ok (nearestCell margins shape index, !coversIndex margins shape index) := by
  induction margins generalizing shape index with
  | nil => rfl
  | cons margin margins ih =>
      cases shape with
      | nil => rfl
      | cons n shape =>
          cases index with
          | nil => rfl
          | cons i index =>
              have first := margin.locate_eq_ok (positive n (by simp)) i
              have others : ∀ k ∈ shape, 0 < k := fun k member =>
                positive k (List.mem_cons_of_mem n member)
              have rest := ih others index
              simp only [locate, first, rest, nearestCell, coversIndex, Bool.not_and]
              rfl

theorem inBox_nearestCell {margins : List Margin} {shape index : List Nat}
    (ranks : margins.length = shape.length) (positive : ∀ n ∈ shape, 0 < n)
    (inside : InBox (enlarge shape margins) index) :
    InBox shape (nearestCell margins shape index) := by
  induction shape generalizing margins index with
  | nil => cases margins <;> trivial
  | cons n shape ih =>
      cases margins with
      | nil => simp at ranks
      | cons margin margins =>
          cases index with
          | nil => exact absurd inside id
          | cons i index =>
              have axis : 0 < n := positive n (by simp)
              have below : margin.nearest n i < n := by
                unfold Margin.nearest
                omega
              have others : ∀ k ∈ shape, 0 < k := fun k member =>
                positive k (List.mem_cons_of_mem n member)
              exact ⟨below, ih (by simpa using ranks) others inside.2⟩

/-- Behind a margin of one width every coordinate is moved back by the width and held on its axis. -/
theorem nearestCell_even (shape index : List Nat) (width : Nat) :
    nearestCell (List.replicate shape.length (Margin.even width)) shape index =
      List.zipWith (fun n i => min (i - width) (n - 1)) shape index := by
  induction shape generalizing index with
  | nil => rfl
  | cons n shape ih =>
      cases index with
      | nil => rfl
      | cons i index =>
          have rest := ih index
          simp only [List.length_cons, List.replicate_succ, nearestCell, List.zipWith_cons_cons, rest]
          rfl

theorem enlarge_even (shape : List Nat) (width : Nat) :
    enlarge shape (List.replicate shape.length (Margin.even width)) =
      shape.map (· + 2 * width) := by
  induction shape with
  | nil => rfl
  | cons n shape ih =>
      unfold enlarge at ih ⊢
      simp only [List.length_cons, List.replicate_succ, List.zipWith_cons_cons, List.map_cons, ih]
      congr 1
      simp only [Margin.even]
      omega

/-- The index in the padded box of an index of the box itself. -/
def Margin.shift (margins : List Margin) (index : List Nat) : List Nat :=
  List.zipWith (fun margin i => margin.before + i) margins index

theorem shift_even (index : List Nat) (width : Nat) :
    Margin.shift (List.replicate index.length (Margin.even width)) index = index.map (width + ·) := by
  induction index with
  | nil => rfl
  | cons i index ih =>
      unfold Margin.shift at ih ⊢
      rw [List.length_cons, List.replicate_succ, List.zipWith_cons_cons, List.map_cons, ih]
      rfl

theorem inBox_shift {margins : List Margin} {shape index : List Nat}
    (enough : shape.length ≤ margins.length) (inside : InBox shape index) :
    InBox (enlarge shape margins) (Margin.shift margins index) := by
  induction shape generalizing margins index with
  | nil =>
      cases index with
      | nil => cases margins <;> trivial
      | cons i index => exact absurd inside id
  | cons n shape ih =>
      cases margins with
      | nil => simp at enough
      | cons margin margins =>
          cases index with
          | nil => exact absurd inside id
          | cons i index =>
              have small : i < n := inside.1
              have first : margin.before + i < n + margin.before + margin.after := by omega
              exact ⟨first, ih (by simpa using enough) inside.2⟩

/-- Over the box itself the nearest cell is the one below. -/
theorem nearestCell_shift {margins : List Margin} {shape index : List Nat}
    (ranks : margins.length = shape.length) (inside : InBox shape index) :
    nearestCell margins shape (Margin.shift margins index) = index ∧
      coversIndex margins shape (Margin.shift margins index) = true := by
  induction shape generalizing margins index with
  | nil =>
      cases index with
      | nil => cases margins <;> simp [nearestCell, coversIndex]
      | cons i index => exact absurd inside id
  | cons n shape ih =>
      cases margins with
      | nil => simp at ranks
      | cons margin margins =>
          cases index with
          | nil => exact absurd inside id
          | cons i index =>
              obtain ⟨cells, covered⟩ := ih (by simpa using ranks) inside.2
              have small : i < n := inside.1
              have first : margin.nearest n (margin.before + i) = i := by
                unfold Margin.nearest
                omega
              have beneath : margin.covers n (margin.before + i) = true := by
                simp [Margin.covers, small]
              unfold Margin.shift at cells covered ⊢
              simp [nearestCell, coversIndex, first, beneath, cells, covered]

/-! ### Padded boxes -/

/-- The value of a padded box at an index. -/
def Tensor.paddedValue (t : Tensor Float) (margins : List Margin) (filling : Filling)
    (index : List Nat) : Float :=
  match filling, coversIndex margins t.shape index with
  | .constant value, false => value
  | _, _ => t.getD (nearestCell margins t.shape index) 0.0

theorem Tensor.paddedValue_edge (t : Tensor Float) (margins : List Margin) (index : List Nat) :
    t.paddedValue margins .edge index = t.getD (nearestCell margins t.shape index) 0.0 := rfl

theorem Tensor.paddedValue_constant (t : Tensor Float) (margins : List Margin) (value : Float)
    (index : List Nat) :
    t.paddedValue margins (.constant value) index =
      if coversIndex margins t.shape index then t.getD (nearestCell margins t.shape index) 0.0
      else value := by
  unfold Tensor.paddedValue
  cases coversIndex margins t.shape index with
  | true => rfl
  | false => rfl

theorem Tensor.read_eq_ok {t : Tensor Float} {index : List Nat} (inside : InBox t.shape index) :
    t.read index = .ok (t.getD index 0.0) := by
  simp [Tensor.read, Tensor.get?_eq_getD inside 0.0]

theorem Tensor.paddedCell_eq_ok {t : Tensor Float} {margins : List Margin} {index : List Nat}
    (filling : Filling) (positive : ∀ n ∈ t.shape, 0 < n) (ranks : margins.length = t.shape.length)
    (inside : InBox (enlarge t.shape margins) index) :
    t.paddedCell margins filling index = .ok (t.paddedValue margins filling index) := by
  have cell := Tensor.read_eq_ok (inBox_nearestCell ranks positive inside)
  unfold Tensor.paddedCell Tensor.paddedValue
  rw [locate_eq_ok margins positive index]
  cases filling with
  | edge => exact cell
  | constant value =>
      cases covered : coversIndex margins t.shape index with
      | true => exact cell
      | false => rfl

theorem enlarge_pos {shape : List Nat} {margins : List Margin} (positive : ∀ n ∈ shape, 0 < n) :
    ∀ n ∈ enlarge shape margins, 0 < n := by
  induction shape generalizing margins with
  | nil => exact fun n member => absurd member List.not_mem_nil
  | cons k shape ih =>
      rw [List.forall_mem_cons] at positive
      cases margins with
      | nil => exact fun n member => absurd member List.not_mem_nil
      | cons margin margins =>
          have axis : 0 < k + margin.before + margin.after := by omega
          exact List.forall_mem_cons.mpr ⟨axis, ih positive.2⟩

/-- Once ranks and sizes are checked, padding computes the cells one after the other. -/
theorem Tensor.pad_eq_ofFnM {t : Tensor Float} {margins : List Margin} (filling : Filling)
    (ranks : margins.length = t.shape.length) (fit : SizesFit (enlarge t.shape margins))
    (storable : Storable (enlarge t.shape margins)) :
    t.pad margins filling = ofFnM (enlarge t.shape margins) (t.paddedCell margins filling) := by
  simp only [pad, ranks, ne_eq, not_true_eq_false, if_false, checkSizes_of_fit fit,
    checkStorable_of_storable storable]
  rfl

theorem Tensor.pad_of_ranks_ne {t : Tensor Float} {margins : List Margin} (filling : Filling)
    (apart : margins.length ≠ t.shape.length) :
    t.pad margins filling = .error (.fault .rankMismatch) := by
  simp only [pad, if_pos apart]
  rfl

theorem Tensor.pad_of_not_fit {t : Tensor Float} {margins : List Margin} (filling : Filling)
    (ranks : margins.length = t.shape.length) (wide : ¬ SizesFit (enlarge t.shape margins)) :
    t.pad margins filling = .error (.fault .sizeOverflow) := by
  simp only [pad, ranks, ne_eq, not_true_eq_false, if_false, checkSizes_of_not_fit wide]
  rfl

theorem Tensor.pad_of_not_storable {t : Tensor Float} {margins : List Margin} (filling : Filling)
    (ranks : margins.length = t.shape.length) (fit : SizesFit (enlarge t.shape margins))
    (vast : ¬ Storable (enlarge t.shape margins)) :
    t.pad margins filling = .error (.fault .sizeOverflow) := by
  simp only [pad, ranks, ne_eq, not_true_eq_false, if_false, checkSizes_of_fit fit,
    checkStorable_of_not_storable vast]
  rfl

/-- A box without empty axes can be padded by any margins. -/
theorem Tensor.pad_eq_ok {t : Tensor Float} {margins : List Margin} (filling : Filling)
    (positive : ∀ n ∈ t.shape, 0 < n) (ranks : margins.length = t.shape.length)
    (fit : SizesFit (enlarge t.shape margins)) :
    t.pad margins filling =
      .ok (Tensor.ofFn (enlarge t.shape margins) (t.paddedValue margins filling)) := by
  rw [pad_eq_ofFnM filling ranks fit (storable_of_pos (enlarge_pos positive))]
  exact ofFnM_eq_ok fun _ inside => paddedCell_eq_ok filling positive ranks inside

end WaveMedium
