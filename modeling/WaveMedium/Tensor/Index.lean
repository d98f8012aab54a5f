/-
Module: WaveMedium.Tensor.Index
Purpose: Indices of a box of cells and their places in row-major order.
Main exports:
  InBox, cellCount, offset, unravel, offset_unravel, unravel_offset, inBox_unravel, offset_lt
-/

namespace WaveMedium

/-! ### Boxes

A box is given by its shape, the list of its lengths.  An index has one coordinate per axis, each
below the axis' length. -/

/-- The index lies in the box of the given shape. -/
def InBox : List Nat → List Nat → Prop
  | [], [] => True
  | n :: shape, i :: index => i < n ∧ InBox shape index
  | _, _ => False

instance decidableInBox : (shape index : List Nat) → Decidable (InBox shape index)
  | [], [] => isTrue trivial
  | _ :: shape, _ :: index =>
      have := decidableInBox shape index
      inferInstanceAs (Decidable (_ ∧ _))
  | [], _ :: _ => isFalse id
  | _ :: _, [] => isFalse id

/-- The number of cells of a box. -/
def cellCount : List Nat → Nat
  | [] => 1
  | n :: shape => n * cellCount shape

/-- The place of an index in row-major order, in which the last coordinate runs fastest. -/
def offset : List Nat → List Nat → Nat
  | _ :: shape, i :: index => i * cellCount shape + offset shape index
  | _, _ => 0

/-- The index at a place in row-major order. -/
def unravel : List Nat → Nat → List Nat
  | [], _ => []
  | _ :: shape, place => place / cellCount shape :: unravel shape (place % cellCount shape)

/-! ### The two are inverse to each other -/

theorem length_eq_of_inBox {shape index : List Nat} (inside : InBox shape index) :
    index.length = shape.length := by
  induction shape generalizing index with
  | nil => cases index <;> simp_all [InBox]
  | cons n shape ih =>
      cases index with
      | nil => exact absurd inside id
      | cons i index => simp [ih inside.2]

theorem offset_lt {shape index : List Nat} (inside : InBox shape index) :
    offset shape index < cellCount shape := by
  induction shape generalizing index with
  | nil => simp [offset, cellCount]
  | cons n shape ih =>
      cases index with
      | nil => exact absurd inside id
      | cons i index =>
          have rest := ih inside.2
          have first : (i + 1) * cellCount shape ≤ n * cellCount shape :=
            Nat.mul_le_mul_right _ inside.1
          rw [Nat.add_mul, Nat.one_mul] at first
          simp only [offset, cellCount]
          omega

theorem inBox_unravel {shape : List Nat} {place : Nat} (small : place < cellCount shape) :
    InBox shape (unravel shape place) := by
  induction shape generalizing place with
  | nil => trivial
  | cons n shape ih =>
      rw [cellCount] at small
      have positive : 0 < cellCount shape := by
        refine Nat.pos_of_ne_zero fun zero => ?_
        simp [zero] at small
      exact ⟨Nat.div_lt_of_lt_mul (by rwa [Nat.mul_comm] at small),
        ih (Nat.mod_lt _ positive)⟩

@[simp] theorem offset_unravel {shape : List Nat} {place : Nat} (small : place < cellCount shape) :
    offset shape (unravel shape place) = place := by
  induction shape generalizing place with
  | nil => simp only [cellCount] at small; simp [offset]; omega
  | cons n shape ih =>
      rw [cellCount] at small
      have positive : 0 < cellCount shape := by
        refine Nat.pos_of_ne_zero fun zero => ?_
        simp [zero] at small
      simp only [unravel, offset, ih (Nat.mod_lt _ positive)]
      exact Nat.div_add_mod' place (cellCount shape)

@[simp] theorem unravel_offset {shape index : List Nat} (inside : InBox shape index) :
    unravel shape (offset shape index) = index := by
  induction shape generalizing index with
  | nil => cases index <;> simp_all [InBox, unravel]
  | cons n shape ih =>
      cases index with
      | nil => exact absurd inside id
      | cons i index =>
          have small := offset_lt inside.2
          have quotient : (i * cellCount shape + offset shape index) / cellCount shape = i := by
            rw [Nat.mul_comm, Nat.mul_add_div (by omega), Nat.div_eq_of_lt small, Nat.add_zero]
          have rest : (i * cellCount shape + offset shape index) % cellCount shape = offset shape index := by
            rw [Nat.mul_comm, Nat.mul_add_mod, Nat.mod_eq_of_lt small]
          simp [offset, unravel, quotient, rest, ih inside.2]

theorem eq_of_offset_eq {shape a b : List Nat} (first : InBox shape a) (second : InBox shape b)
    (same : offset shape a = offset shape b) : a = b := by
  rw [← unravel_offset first, same, unravel_offset second]

end WaveMedium
