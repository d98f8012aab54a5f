/-
Module: WaveMedium.Tensor.Basic
Purpose: Boxes of values of any rank, read and rebuilt cell by cell.
Main exports:
  Tensor, Tensor.ofFn, Tensor.ofFnM, Tensor.get?, Tensor.map, Tensor.mapIdx, Tensor.zipWith?
-/
import WaveMedium.Tensor.Index

namespace WaveMedium

/-- A box of values in row-major order.  A box without axes has one cell. -/
structure Tensor (α : Type) where
  shape : List Nat
  cells : Vector α (cellCount shape)
deriving DecidableEq

namespace Tensor

variable {α β γ : Type}

/-! ### Building -/

/-- The box whose cell at each index is the value of a function there. -/
def ofFn (shape : List Nat) (cell : List Nat → α) : Tensor α :=
  ⟨shape, Vector.ofFn fun place => cell (unravel shape place)⟩

/-- The box whose cells are computed one after the other in row-major order. -/
def ofFnM {m : Type → Type} [Monad m] (shape : List Nat) (cell : List Nat → m α) : m (Tensor α) := do
  let cells ← Vector.ofFnM fun place : Fin (cellCount shape) => cell (unravel shape place)
  return ⟨shape, cells⟩

/-- The box with the same value in every cell.  Whether a box of the shape can be stored is not asked here. -/
def full (shape : List Nat) (value : α) : Tensor α := ⟨shape, Vector.replicate _ value⟩

/-- The box with the given values in row-major order, if their number fits the shape. -/
def ofList? (shape : List Nat) (values : List α) : Option (Tensor α) :=
  if fits : values.toArray.size = cellCount shape then some ⟨shape, values.toArray, fits⟩ else none

/-! ### Reading -/

/-- Whether the box has no cells. -/
def isEmpty (t : Tensor α) : Bool := t.shape.contains 0

/-- The value in a cell, if the index lies in the box. -/
def get? (t : Tensor α) (index : List Nat) : Option α :=
  if InBox t.shape index then t.cells[offset t.shape index]? else none

/-- The value in a cell, or another value outside the box. -/
def getD (t : Tensor α) (index : List Nat) (outside : α) : α := (t.get? index).getD outside

/-- Combine all cells in row-major order. -/
def foldl (step : β → α → β) (start : β) (t : Tensor α) : β := t.cells.foldl step start

/-- Whether all cells have a property. -/
def all (t : Tensor α) (test : α → Bool) : Bool := t.cells.all test

/-! ### Changing every cell -/

/-- Apply a function to every cell. -/
def map (f : α → β) (t : Tensor α) : Tensor β := ⟨t.shape, t.cells.map f⟩

/-- Apply a function of index and value to every cell. -/
def mapIdx (f : List Nat → α → β) (t : Tensor α) : Tensor β :=
  ⟨t.shape, Vector.ofFn fun place => f (unravel t.shape place) t.cells[place]⟩

/-- Apply a function to the cells whose coordinate along one axis is `row`. -/
def mapRow (axis row : Nat) (f : α → α) (t : Tensor α) : Tensor α :=
  t.mapIdx fun index value => if index[axis]? = some row then f value else value

/-- Combine two boxes of one shape cell by cell. -/
def zipWith? (f : α → β → γ) (a : Tensor α) (b : Tensor β) : Option (Tensor γ) :=
  if same : b.shape = a.shape then some ⟨a.shape, Vector.zipWith f a.cells (same ▸ b.cells)⟩
  else none

/-- Write one cell; an index outside the box writes nothing. -/
def set (t : Tensor α) (index : List Nat) (value : α) : Tensor α :=
  if InBox t.shape index then ⟨t.shape, t.cells.setIfInBounds (offset t.shape index) value⟩ else t

/-! ### Shapes -/

@[simp] theorem shape_ofFn (shape : List Nat) (cell : List Nat → α) :
    (ofFn shape cell).shape = shape := rfl

@[simp] theorem shape_full (shape : List Nat) (value : α) : (full shape value).shape = shape := rfl

@[simp] theorem shape_map (f : α → β) (t : Tensor α) : (t.map f).shape = t.shape := rfl

@[simp] theorem shape_mapIdx (f : List Nat → α → β) (t : Tensor α) :
    (t.mapIdx f).shape = t.shape := rfl

@[simp] theorem shape_mapRow (axis row : Nat) (f : α → α) (t : Tensor α) :
    (t.mapRow axis row f).shape = t.shape := rfl

@[simp] theorem shape_set (t : Tensor α) (index : List Nat) (value : α) :
    (t.set index value).shape = t.shape := by
  unfold set; split <;> rfl

/-! ### Cells -/

/-- A box answers inside its shape and nowhere else. -/
theorem get?_isSome (t : Tensor α) (index : List Nat) :
    (t.get? index).isSome = decide (InBox t.shape index) := by
  unfold get?
  split
  · rename_i inside
    simp [inside, offset_lt inside]
  · rename_i outside
    simp [outside]

theorem get?_eq_none {t : Tensor α} {index : List Nat} (outside : ¬ InBox t.shape index) :
    t.get? index = none := by
  simp [get?, outside]

theorem inBox_of_get? {t : Tensor α} {index : List Nat} {value : α}
    (found : t.get? index = some value) : InBox t.shape index := by
  have present := t.get?_isSome index
  rw [found] at present
  exact of_decide_eq_true present.symm

/-- Inside its shape a box answers with the cell at the row-major place. -/
theorem get?_mk {shape index : List Nat} (cells : Vector α (cellCount shape))
    (inside : InBox shape index) (small : offset shape index < cellCount shape) :
    (⟨shape, cells⟩ : Tensor α).get? index = some cells[offset shape index] := by
  simp [get?, inside, small]

@[simp] theorem get?_ofFn {shape index : List Nat} (cell : List Nat → α)
    (inside : InBox shape index) : (ofFn shape cell).get? index = some (cell index) :=
  (get?_mk _ inside (offset_lt inside)).trans (by simp [unravel_offset inside])

@[simp] theorem get?_full {shape index : List Nat} (value : α) (inside : InBox shape index) :
    (full shape value).get? index = some value :=
  (get?_mk _ inside (offset_lt inside)).trans (by simp)

@[simp] theorem get?_map (f : α → β) (t : Tensor α) (index : List Nat) :
    (t.map f).get? index = (t.get? index).map f := by
  obtain ⟨shape, cells⟩ := t
  by_cases inside : InBox shape index
  · rw [get?_mk cells inside (offset_lt inside)]
    exact (get?_mk _ inside (offset_lt inside)).trans (by simp)
  · rw [get?_eq_none inside, get?_eq_none inside]
    rfl

@[simp] theorem get?_mapIdx (f : List Nat → α → β) (t : Tensor α) (index : List Nat) :
    (t.mapIdx f).get? index = (t.get? index).map (f index) := by
  obtain ⟨shape, cells⟩ := t
  by_cases inside : InBox shape index
  · rw [get?_mk cells inside (offset_lt inside)]
    exact (get?_mk _ inside (offset_lt inside)).trans (by simp [unravel_offset inside])
  · rw [get?_eq_none inside, get?_eq_none inside]
    rfl

theorem get?_mapRow (axis row : Nat) (f : α → α) (t : Tensor α) (index : List Nat) :
    (t.mapRow axis row f).get? index =
      (t.get? index).map fun value => if index[axis]? = some row then f value else value :=
  get?_mapIdx _ t index

/-- Writing one cell leaves the others as they were. -/
theorem get?_set {t : Tensor α} {target : List Nat} (within : InBox t.shape target) (value : α)
    {index : List Nat} (inside : InBox t.shape index) :
    (t.set target value).get? index = if index = target then some value else t.get? index := by
  obtain ⟨shape, cells⟩ := t
  have apart : offset shape target = offset shape index ↔ index = target :=
    ⟨fun same => (eq_of_offset_eq within inside same).symm, fun same => by rw [same]⟩
  rw [set, if_pos within, get?_mk _ inside (offset_lt inside), get?_mk _ inside (offset_lt inside),
    Vector.getElem_setIfInBounds, ← apply_ite some]
  simp only [apart]

theorem getD_eq {t : Tensor α} {index : List Nat} {value : α} (found : t.get? index = some value)
    (outside : α) : t.getD index outside = value := by
  simp [getD, found]

/-- Inside its shape a box has a value. -/
theorem exists_get? (t : Tensor α) {index : List Nat} (inside : InBox t.shape index) :
    ∃ value, t.get? index = some value := by
  rw [← Option.isSome_iff_exists, get?_isSome]
  exact decide_eq_true inside

theorem get?_eq_getD {t : Tensor α} {index : List Nat} (inside : InBox t.shape index)
    (outside : α) : t.get? index = some (t.getD index outside) := by
  obtain ⟨value, found⟩ := t.exists_get? inside
  rw [getD_eq found, found]

/-- Two boxes of one shape can be combined. -/
theorem exists_zipWith? (f : α → β → γ) {a : Tensor α} {b : Tensor β}
    (same : b.shape = a.shape) :
    ∃ c, zipWith? f a b = some c ∧ c.shape = a.shape ∧
      ∀ index x y, a.get? index = some x → b.get? index = some y →
        c.get? index = some (f x y) := by
  obtain ⟨shape, left⟩ := a
  obtain ⟨_, right⟩ := b
  cases same
  refine ⟨_, dif_pos rfl, rfl, fun index x y first second => ?_⟩
  have inside : InBox shape index := inBox_of_get? first
  have small := offset_lt inside
  rw [get?_mk _ inside small] at first second
  cases first
  cases second
  exact (get?_mk _ inside small).trans (by simp)

/-- A box all of whose cells can be computed is the box of their values. -/
theorem ofFnM_eq_ok {ε : Type} {shape : List Nat} {cell : List Nat → Except ε α}
    {value : List Nat → α} (computed : ∀ index, InBox shape index → cell index = .ok (value index)) :
    ofFnM shape cell = .ok (ofFn shape value) := by
  have cells : (fun place : Fin (cellCount shape) => cell (unravel shape place)) =
      fun place : Fin (cellCount shape) => (pure (value (unravel shape place)) : Except ε α) :=
    funext fun place => computed _ (inBox_unravel place.isLt)
  unfold ofFnM
  rw [cells, Vector.ofFnM_pure]
  rfl

theorem isEmpty_eq_false_iff (t : Tensor α) : t.isEmpty = false ↔ ∀ n ∈ t.shape, 0 < n := by
  simp only [isEmpty, List.contains_eq_mem, decide_eq_false_iff_not]
  constructor
  · intro noZero n member
    exact Nat.pos_of_ne_zero fun zero => noZero (by rwa [zero] at member)
  · intro positive member
    exact absurd (positive 0 member) (Nat.lt_irrefl 0)

/-- Boxes of one shape with the same cells are equal. -/
theorem ext_get? {a b : Tensor α} (shapes : a.shape = b.shape)
    (cells : ∀ index, InBox a.shape index → a.get? index = b.get? index) : a = b := by
  obtain ⟨shape, left⟩ := a
  obtain ⟨_, right⟩ := b
  cases shapes
  congr
  ext place small
  have inside := inBox_unravel small
  have same := cells (unravel shape place) inside
  simpa [get?, inside, offset_unravel small, small] using same

end Tensor

end WaveMedium
