/-
Module: WaveMedium.Proofs.Extremes
Purpose: Continuing values over the layer and the halo changes neither the largest nor the smallest of them.
Main exports:
  Tensor.exists_paddedValue_iff, StoredField.mem_extendedStorage_iff, StoredField.extremes_of_extend
-/
import WaveMedium.Proofs.Extension
import WaveMedium.Proofs.Tensor.Reduction

namespace WaveMedium

open Number

/-- A box whose edges are repeated outward has the values of the box and no others. -/
theorem Tensor.exists_paddedValue_iff {t : Tensor Float} {margins : List Margin}
    (positive : ∀ n ∈ t.shape, 0 < n) (ranks : margins.length = t.shape.length) (x : Float) :
    (∃ index, (ofFn (enlarge t.shape margins) (t.paddedValue margins .edge)).get? index = some x) ↔
      ∃ cell, t.get? cell = some x := by
  constructor
  · rintro ⟨index, found⟩
    have inside : InBox (enlarge t.shape margins) index := inBox_of_get? found
    rw [get?_ofFn _ inside, paddedValue_edge] at found
    exact ⟨_, (get?_eq_getD (inBox_nearestCell ranks positive inside) 0.0).trans found⟩
  · rintro ⟨cell, found⟩
    have inside := inBox_of_get? found
    refine ⟨Margin.shift margins cell, ?_⟩
    rw [get?_ofFn _ (inBox_shift (Nat.le_of_eq ranks.symm) inside), paddedValue_edge,
      (nearestCell_shift ranks inside).1, getD_eq found]

namespace StoredField

open Change

variable {field filled : StoredField} {values : Tensor Float} {layer : Nat}

/-- The storage has the supplied values, rounded, and no others. -/
theorem mem_extendedStorage_iff (halos : field.halo.length = field.storage.shape.length)
    (admitted : field.Admits values layer) (x : Float) :
    x ∈ (field.extendedStorage values layer .edge).cells.toList ↔
      x ∈ (values.map field.precision.cast).cells.toList := by
  have present := Tensor.exists_paddedValue_iff (values.isEmpty_eq_false_iff.mp admitted.1)
    (length_margins halos admitted)
  rw [enlarge_margins admitted] at present
  simp only [Tensor.mem_cells_iff, extendedStorage, Tensor.get?_map, Option.map_eq_some_iff]
  constructor
  · rintro ⟨index, exact, found, rounded⟩
    obtain ⟨cell, there⟩ := (present exact).mp ⟨index, found⟩
    exact ⟨cell, exact, there, rounded⟩
  · rintro ⟨cell, exact, there, rounded⟩
    obtain ⟨index, found⟩ := (present exact).mpr ⟨cell, there⟩
    exact ⟨index, exact, found, rounded⟩

/-- A field with one halo margin per axis that was filled from values continued over the layer and the halo
has the greatest of these values, rounded, for its largest stored value, and the least for its smallest.  If
none of them is a number, they are negative and positive infinity.  However the storage is split to find
them, the same numbers are found. -/
theorem extremes_of_extend (halos : field.halo.length = field.storage.shape.length)
    (done : (extend values layer .edge).perform field = (.ok (), filled)) :
    Greatest (values.map field.precision.cast).cells.toList filled.largest ∧
      Least (values.map field.precision.cast).cells.toList filled.smallest ∧
      ∀ split : Splitting, split.values = filled.storage.cells.toList →
        (∀ choose, Selects (· ≤ ·) choose →
          SameNumber (split.reduce choose negativeInfinity) filled.largest) ∧
        ∀ choose, Selects (· ≥ ·) choose →
          SameNumber (split.reduce choose positiveInfinity) filled.smallest := by
  obtain ⟨admitted, rfl⟩ := of_perform_extend halos done
  have same := mem_extendedStorage_iff halos admitted
  refine ⟨(Tensor.greatest_largest _).congr same, (Tensor.least_smallest _).congr same, ?_⟩
  intro split stored
  constructor
  · intro choose selects
    exact (split.greatest_reduce selects).sameNumber keyed_le
      (stored.symm ▸ Tensor.greatest_largest _)
  · intro choose selects
    exact (split.least_reduce selects).sameNumber keyed_ge (stored.symm ▸ Tensor.least_smallest _)

/-- A number and a value that is none. -/
def brokenColumn : Tensor Float := ⟨[2, 1], #v[0.1, 0.0 / 0.0]⟩

/-- The value that is no number is continued over the halo, and passed over. -/
theorem extremes_of_extend_brokenColumn :
    lopsidedField.halo.length = lopsidedField.storage.shape.length ∧
    ∃ filled, (extend brokenColumn 1 .edge).perform lopsidedField = (.ok (), filled) ∧
      Greatest (brokenColumn.map Precision.single.cast).cells.toList filled.largest ∧
      Least (brokenColumn.map Precision.single.cast).cells.toList filled.smallest ∧
      filled.largest.isNaN = false := by
  have halos : lopsidedField.halo.length = lopsidedField.storage.shape.length := rfl
  have admitted : lopsidedField.Admits brokenColumn 1 := ⟨by decide, by decide⟩
  have done := perform_extend_of_admits .edge halos (by decide) admitted
  have extremes := extremes_of_extend halos done
  refine ⟨halos, _, done, extremes.1, extremes.2.1, ?_⟩
  exact (Tensor.extreme_largest _).number

end StoredField

end WaveMedium
