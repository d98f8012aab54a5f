/-
Module: WaveMedium.Proofs.Layers
Purpose: How an axis is divided into equal layers, and which value each cell of a layered box holds.
Main exports:
  layerStart, le_layerOf_iff, layerOf_eq_iff, exists_layer_length, get?_of_layered, layered_equal_layers
-/
import Mathlib.Algebra.Order.Floor.Div
import Mathlib.Order.Monotone.Basic
import WaveMedium.Proofs.Scenario

/-!
Point `k` of an axis of `depth` points lies in layer `k * count / depth`, rounded down.  Layer `j` therefore
starts at the first `k` with `j * depth ≤ k * count`, which is `j * depth / count` rounded up.  Everything
about the layers is read off these starts.
-/

namespace WaveMedium

section Axis

variable {depth count : Nat}

/-! ### The layer of a point -/

/-- No point of the axis lies past the last layer. -/
theorem layerOf_eq {k : Nat} (inside : k < depth) : layerOf depth count k = k * count / depth := by
  rcases count.eq_zero_or_pos with rfl | positive
  · simp [layerOf]
  · have below : k * count / depth < count :=
      Nat.div_lt_of_lt_mul (Nat.mul_lt_mul_of_pos_right inside positive)
    exact Nat.min_eq_left (by omega)

theorem layerOf_zero : layerOf depth count 0 = 0 := by simp [layerOf]

/-- Layers do not become higher with the depth. -/
theorem layerOf_mono {i k : Nat} (le : i ≤ k) : layerOf depth count i ≤ layerOf depth count k :=
  min_le_min_right _ (Nat.div_le_div_right (Nat.mul_le_mul_right count le))

/-! ### Where layers start -/

/-- The first point of a layer, which is that of the next layer if the layer has no points. -/
def layerStart (depth count j : Nat) : Nat := (j * depth) ⌈/⌉ count

section Starts

variable (positive : 0 < count)
include positive

theorem layerStart_le_iff {j k : Nat} : layerStart depth count j ≤ k ↔ j * depth ≤ k * count := by
  rw [layerStart, ceilDiv_le_iff_le_mul positive, Nat.mul_comm count]

/-- A point lies in a layer or below it exactly if the layer starts at the point or above. -/
theorem le_layerOf_iff {j k : Nat} (inside : k < depth) :
    j ≤ layerOf depth count k ↔ layerStart depth count j ≤ k := by
  rw [layerOf_eq inside, layerStart_le_iff positive, Nat.le_div_iff_mul_le (by omega)]

/-- The points of a layer are those from its start up to that of the next. -/
theorem layerOf_eq_iff {j k : Nat} (inside : k < depth) :
    layerOf depth count k = j ↔
      layerStart depth count j ≤ k ∧ k < layerStart depth count (j + 1) := by
  have lower := le_layerOf_iff (j := j) positive inside
  have upper := le_layerOf_iff (j := j + 1) positive inside
  omega

/-- The layers end where the axis does. -/
theorem layerStart_le {j : Nat} (le : j ≤ count) : layerStart depth count j ≤ depth := by
  rw [layerStart_le_iff positive, Nat.mul_comm depth]
  exact Nat.mul_le_mul_right depth le

theorem layerStart_succ_le (depth j : Nat) :
    layerStart depth count (j + 1) ≤ layerStart depth count j + depth ⌈/⌉ count := by
  have start := (layerStart_le_iff positive).mp (le_refl (layerStart depth count j))
  have length := (ceilDiv_le_iff_le_mul positive).mp (le_refl (depth ⌈/⌉ count))
  rw [Nat.mul_comm count] at length
  rw [layerStart_le_iff positive, Nat.add_mul, Nat.add_mul, Nat.one_mul]
  exact Nat.add_le_add start length

theorem le_layerStart_succ (depth j : Nat) :
    layerStart depth count j + depth / count ≤ layerStart depth count (j + 1) := by
  have next := (layerStart_le_iff positive).mp (le_refl (layerStart depth count (j + 1)))
  have whole := Nat.div_mul_le_self depth count
  rw [Nat.add_mul, Nat.one_mul] at next
  have room : depth / count ≤ layerStart depth count (j + 1) :=
    Nat.le_of_mul_le_mul_right (by omega) positive
  have start : layerStart depth count j ≤ layerStart depth count (j + 1) - depth / count := by
    rw [layerStart_le_iff positive, Nat.sub_mul]
    omega
  omega

theorem ceilDiv_le_div_add_one (depth : Nat) : depth ⌈/⌉ count ≤ depth / count + 1 := by
  rw [ceilDiv_le_iff_le_mul positive]
  exact (Nat.lt_mul_div_succ depth positive).le

/-- The length of a layer is that of the axis over the number of layers, rounded down or rounded up. -/
theorem exists_layer_length (depth j : Nat) :
    ∃ length, (length = depth / count ∨ length = depth ⌈/⌉ count) ∧
      layerStart depth count (j + 1) = layerStart depth count j + length := by
  have upper := layerStart_succ_le positive depth j
  have lower := le_layerStart_succ positive depth j
  have close := ceilDiv_le_div_add_one positive depth
  rcases lower.eq_or_lt with shorter | longer
  · exact ⟨depth / count, .inl rfl, shorter.symm⟩
  · exact ⟨depth ⌈/⌉ count, .inr rfl, by omega⟩

/-- With no more layers than points, every layer has its start for a point. -/
theorem layerOf_layerStart {j : Nat} (inside : j < count) (enough : count ≤ depth) :
    layerStart depth count j < depth ∧ layerOf depth count (layerStart depth count j) = j := by
  have length := le_layerStart_succ positive depth j
  have one : 0 < depth / count := Nat.div_pos enough positive
  have last : layerStart depth count (j + 1) ≤ depth := layerStart_le positive inside
  have below : layerStart depth count j < depth := by omega
  exact ⟨below, (layerOf_eq_iff positive below).mpr ⟨le_refl _, by omega⟩⟩

/-- With no more layers than points, no two layers start at one point. -/
theorem strictMono_layerStart (enough : count ≤ depth) :
    StrictMono fun j : Fin count => layerStart depth count j := by
  intro i j less
  by_contra! deeper
  have back : layerOf depth count _ ≤ layerOf depth count _ := layerOf_mono deeper
  rw [(layerOf_layerStart positive i.isLt enough).2, (layerOf_layerStart positive j.isLt enough).2] at back
  exact absurd less (Fin.not_lt.mpr back)

/-- With no more layers than points, the last point lies in the last layer. -/
theorem layerOf_last (enough : count ≤ depth) : layerOf depth count (depth - 1) = count - 1 := by
  have before : count - 1 < count := by omega
  obtain ⟨below, _⟩ := layerOf_layerStart positive before enough
  have reached : count - 1 ≤ layerOf depth count (depth - 1) :=
    (le_layerOf_iff positive (by omega)).mpr (by omega)
  have bounded : layerOf depth count (depth - 1) < count := layerOf_lt positive
  omega

end Starts

end Axis

/-! ### Boxes of layers -/

/-- The last coordinate of an index is a point of the last axis. -/
theorem exists_getLast?_of_inBox {shape index : List Nat} {depth : Nat} (inside : InBox shape index)
    (deepest : shape.getLast? = some depth) : ∃ k, index.getLast? = some k ∧ k < depth := by
  induction shape generalizing index with
  | nil => cases deepest
  | cons n shape ih =>
      cases index with
      | nil => exact absurd inside id
      | cons i index =>
          cases shape with
          | nil =>
              have rest : index = [] := List.length_eq_zero_iff.mp (length_eq_of_inBox inside.2)
              cases deepest
              exact ⟨i, by rw [rest]; rfl, inside.1⟩
          | cons m shape =>
              rw [List.getLast?_cons_cons] at deepest
              cases index with
              | nil => exact absurd inside.2 id
              | cons j index =>
                  rw [List.getLast?_cons_cons]
                  exact ih inside.2 deepest

section Box

variable {shape : List Nat} {depth : Nat} {values : List Float} {cells : Tensor Float}

/-- A cell holds the value of the layer that its last coordinate lies in. -/
theorem get?_of_layered (deepest : shape.getLast? = some depth) (given : values ≠ [])
    (made : layered shape values = .ok cells) {index : List Nat} {k : Nat}
    (inside : InBox shape index) (last : index.getLast? = some k) :
    k < depth ∧ cells.get? index = values[layerOf depth values.length k]? := by
  obtain ⟨point, same, below⟩ := exists_getLast?_of_inBox inside deepest
  obtain rfl : point = k := Option.some.inj (same.symm.trans last)
  have positive : 0 < values.length := List.length_pos_iff.mpr given
  have small : layerOf depth values.length point < values.length := layerOf_lt positive
  obtain ⟨length, same, rfl⟩ := eq_of_layered made
  obtain rfl : length = depth := Option.some.inj (same.symm.trans deepest)
  rw [Tensor.get?_ofFn _ inside, List.getLastD_eq_getLast?, last, Option.getD_some,
    max_eq_left (show 1 ≤ length by omega), max_eq_left (show 1 ≤ values.length from positive),
    List.getD_eq_getElem _ _ small, List.getElem?_eq_getElem small]
  exact ⟨below, rfl⟩

end Box

/-- A box that has a depth and can be stored is divided into equal layers.  Of `n` values a cell holds the one
at `k * n / depth`, rounded down, for its last coordinate `k`, whatever the others are.  That is always the
number of a value, so the limit to the last one never counts.  The layers come in their order from zero on,
and each is a run of points whose length is `depth / n`, rounded down or rounded up.  With no more values
than points every value is there, in order, and the last row holds the last one.  Only a box without cells can
be too large to be stored. -/
theorem layered_equal_layers {shape : List Nat} {depth : Nat} {values : List Float}
    (deepest : shape.getLast? = some depth) (given : values ≠ []) :
    (Storable shape → ∃ cells, layered shape values = .ok cells ∧ cells.shape = shape ∧
      (∀ index k, InBox shape index → index.getLast? = some k →
        ∃ small : k * values.length / depth < values.length,
          cells.get? index = some values[k * values.length / depth]) ∧
      (values.length ≤ depth →
        (∃ row : Fin values.length → Nat, StrictMono row ∧ ∀ j, row j < depth ∧
          ∀ index, InBox shape index → index.getLast? = some (row j) →
            cells.get? index = some values[j]) ∧
          ∀ index, InBox shape index → index.getLast? = some (depth - 1) →
            cells.get? index = values.getLast?)) ∧
      (¬ Storable shape →
        (∀ index, ¬ InBox shape index) ∧ layered shape values = .error (.fault .sizeOverflow)) ∧
      (∀ k < depth, layerOf depth values.length k = k * values.length / depth) ∧
      layerOf depth values.length 0 = 0 ∧
      (∀ i k, i ≤ k → layerOf depth values.length i ≤ layerOf depth values.length k) ∧
      ∀ j < values.length, ∃ first length,
        (length = depth / values.length ∨ length = depth ⌈/⌉ values.length) ∧
          first + length ≤ depth ∧
          ∀ k < depth, layerOf depth values.length k = j ↔ first ≤ k ∧ k < first + length := by
  have axes : shape ≠ [] := by
    rintro rfl
    cases deepest
  have positive : 0 < values.length := List.length_pos_iff.mpr given
  refine ⟨fun storable => ?made, fun vast => ⟨fun index inside => ?_, layered_of_not_storable vast values⟩,
    fun _ => layerOf_eq, layerOf_zero, fun _ _ => layerOf_mono, ?runs⟩
  case made =>
    obtain ⟨cells, made⟩ := exists_layered storable axes values
    refine ⟨cells, made, shape_of_layered made, ?cells, fun enough => ⟨?order, ?last⟩⟩
    case cells =>
      intro index k inside last
      obtain ⟨below, held⟩ := get?_of_layered deepest given made inside last
      have small : layerOf depth values.length k < values.length := layerOf_lt positive
      rw [layerOf_eq below] at held small
      exact ⟨small, held.trans (List.getElem?_eq_getElem small)⟩
    case order =>
      refine ⟨_, strictMono_layerStart positive enough, fun j => ?_⟩
      obtain ⟨below, layer⟩ := layerOf_layerStart positive j.isLt enough
      refine ⟨below, fun index inside last => ?_⟩
      obtain ⟨_, held⟩ := get?_of_layered deepest given made inside last
      rw [held, layer]
      exact List.getElem?_eq_getElem j.isLt
    case last =>
      intro index inside last
      obtain ⟨_, held⟩ := get?_of_layered deepest given made inside last
      rw [held, layerOf_last positive enough, List.getLast?_eq_getElem?]
  case runs =>
    intro j inside
    obtain ⟨length, rounded, next⟩ := exists_layer_length positive depth j
    refine ⟨layerStart depth values.length j, length, rounded, ?_, fun k below => ?_⟩
    · rw [← next]
      exact layerStart_le positive inside
    · rw [← next]
      exact layerOf_eq_iff positive below
  exact vast (storable_of_pos (exists_inBox_iff.mp ⟨index, inside⟩))

/-- Two columns of five points in three layers, of which the last is shorter than the others. -/
theorem layered_equal_layers_columns :
    ∃ cells, layered [2, 5] [1.5, 2.5, 3.5] = .ok cells ∧
      cells.get? [0, 1] = some 1.5 ∧ cells.get? [1, 2] = some 2.5 ∧ cells.get? [1, 4] = some 3.5 ∧
      ∃ row : Fin 3 → Nat, StrictMono row ∧ ∀ j, row j < 5 := by
  have deepest : [2, 5].getLast? = some 5 := rfl
  have given : [1.5, 2.5, 3.5] ≠ ([] : List Float) := by decide
  obtain ⟨stored, _⟩ := layered_equal_layers deepest given
  obtain ⟨cells, made, _, held, enough⟩ := stored (by decide)
  obtain ⟨⟨row, ordered, rows⟩, last⟩ := enough (by decide)
  obtain ⟨_, upper⟩ := held [0, 1] 1 (by decide) rfl
  obtain ⟨_, middle⟩ := held [1, 2] 2 (by decide) rfl
  exact ⟨cells, made, upper, middle, last [1, 4] (by decide) rfl, row, ordered, fun j => (rows j).1⟩

end WaveMedium
