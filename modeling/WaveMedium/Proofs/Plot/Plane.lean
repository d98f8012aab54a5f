/-
Module: WaveMedium.Proofs.Plot.Plane
Purpose: Which fields have a plane that can be plotted, and what that plane shows.
Main exports:
  Tensor.toList_ofFn_of_offset, Plot.Shows, Plot.HasPlane, Plot.Shows.unique, Plot.plane_cases,
  Plot.plane_eq_ok_iff, Plot.plane_answer
-/
import Mathlib.Data.List.Basic
import WaveMedium.Plot

namespace WaveMedium

/-! ### Boxes with the same values in order -/

namespace Tensor

variable {α : Type}

/-- A box that reads each of its cells from the same row-major place of another box has the values of that
box in the same order. -/
theorem toList_ofFn_of_offset {t : Tensor α} {shape : List Nat} {source : List Nat → List Nat}
    (count : cellCount shape = cellCount t.shape)
    (places : ∀ index, InBox shape index →
      InBox t.shape (source index) ∧ offset t.shape (source index) = offset shape index) (outside : α) :
    (ofFn shape fun index => t.getD (source index) outside).cells.toList = t.cells.toList := by
  obtain ⟨other, cells⟩ := t
  apply List.ext_getElem
  · simpa [ofFn] using count
  · intro place left right
    have small : place < cellCount shape := by simpa [ofFn] using left
    obtain ⟨inside, same⟩ := places _ (inBox_unravel small)
    rw [offset_unravel small] at same
    have found := get?_mk cells inside (offset_lt inside)
    simp only [same] at found
    simp [ofFn, getD_eq found]

/-- Boxes of one shape with the same values in row-major order are equal. -/
theorem eq_of_toList_eq {a b : Tensor α} (shapes : a.shape = b.shape)
    (values : a.cells.toList = b.cells.toList) : a = b := by
  obtain ⟨shape, left⟩ := a
  obtain ⟨_, right⟩ := b
  cases shapes
  exact congrArg (mk shape) (Vector.toList_inj.mp values)

end Tensor

namespace Plot

/-! ### Planes -/

/-- A plane shows a box. -/
inductive Shows (t : Tensor Float) : Tensor Float → Prop where
  /-- A line stands as one column, with its values in the same order. -/
  | column {plane : Tensor Float} {n : Nat} (line : t.shape = [n]) (shape : plane.shape = [n, 1])
      (values : plane.cells.toList = t.cells.toList) : Shows t plane
  /-- A plane shows itself. -/
  | whole {a c : Nat} (shape : t.shape = [a, c]) : Shows t t
  /-- A body is cut through the middle of its second axis. -/
  | cut {plane : Tensor Float} {a b c : Nat} (body : t.shape = [a, b, c]) (occupied : 0 < b)
      (shape : plane.shape = [a, c])
      (values : ∀ i k, i < a → k < c → plane.get? [i, k] = t.get? [i, b / 2, k]) : Shows t plane

/-- The shapes of the boxes that have a plane: one axis, or two, or three of which the second has a
middle. -/
def HasPlane : List Nat → Prop
  | [_] | [_, _] => True
  | [_, b, _] => 0 < b
  | _ => False

theorem Shows.hasPlane {t p : Tensor Float} (shows : Shows t p) : HasPlane t.shape := by
  cases shows with
  | column line => rw [line]; trivial
  | whole shape => rw [shape]; trivial
  | cut body occupied => rwa [body]

/-- At most one plane shows a box. -/
theorem Shows.unique {t p q : Tensor Float} (first : Shows t p) (second : Shows t q) : p = q := by
  cases first with
  | column line shape values =>
      cases second with
      | column again other others =>
          cases line.symm.trans again
          exact Tensor.eq_of_toList_eq (shape.trans other.symm) (values.trans others.symm)
      | whole other => cases line.symm.trans other
      | cut body => cases line.symm.trans body
  | whole shape =>
      cases second with
      | column line => cases shape.symm.trans line
      | whole => rfl
      | cut body => cases shape.symm.trans body
  | cut body occupied shape values =>
      cases second with
      | column line => cases body.symm.trans line
      | whole other => cases body.symm.trans other
      | cut again _ other others =>
          cases body.symm.trans again
          apply Tensor.ext_get? (shape.trans other.symm)
          intro index inside
          rw [shape] at inside
          obtain ⟨i, k, rfl⟩ := List.length_eq_two.mp (length_eq_of_inBox inside)
          rw [values i k inside.1 inside.2.1, others i k inside.1 inside.2.1]

/-! ### What is plotted -/

section Plane

variable {t : Tensor Float} {a b c n : Nat}

/-- Cell `[i]` of a line and cell `[i, 0]` of a column stand in the same place. -/
theorem exists_plane_of_line (line : t.shape = [n]) : ∃ p, plane t = .ok p ∧ Shows t p := by
  have made : plane t = .ok (Tensor.ofFn [n, 1] fun index => t.getD (index.take 1) 0.0) := by
    simp only [plane, line]
  refine ⟨_, made, .column line rfl (Tensor.toList_ofFn_of_offset ?_ ?_ _)⟩
  · simp [line, cellCount]
  · intro index inside
    obtain ⟨i, k, rfl⟩ := List.length_eq_two.mp (length_eq_of_inBox inside)
    obtain rfl : k = 0 := Nat.lt_one_iff.mp inside.2.1
    rw [line]
    exact ⟨⟨inside.1, trivial⟩, by simp [offset, cellCount]⟩

/-- An axis that has a point has one in the middle. -/
theorem exists_plane_of_body (body : t.shape = [a, b, c]) (occupied : 0 < b) :
    ∃ p, plane t = .ok p ∧ Shows t p := by
  have made : plane t = .ok (Tensor.ofFn [a, c] fun index =>
      t.getD [index.getD 0 0, b / 2, index.getD 1 0] 0.0) := by
    simp only [plane, body, if_neg (Nat.ne_of_gt occupied)]
  refine ⟨_, made, .cut body occupied rfl fun i k row column => ?_⟩
  have cell : InBox [a, c] [i, k] := ⟨row, column, trivial⟩
  have inside : InBox t.shape [i, b / 2, k] := by
    rw [body]
    exact ⟨row, Nat.div_lt_self occupied (by decide), column, trivial⟩
  rw [Tensor.get?_ofFn _ cell, Tensor.get?_eq_getD inside 0.0]
  rfl

theorem exists_plane (has : HasPlane t.shape) : ∃ p, plane t = .ok p ∧ Shows t p := by
  match shape : t.shape, has with
  | [_], _ => exact exists_plane_of_line shape
  | [_, _], _ => exact ⟨t, by simp only [plane, shape], .whole shape⟩
  | [_, _, _], middle => exact exists_plane_of_body shape middle

/-- A body whose second axis is empty has no middle to cut through. -/
theorem plane_of_flat (flat : t.shape = [a, 0, c]) : plane t = .error (.fault .outOfRange) := by
  simp only [plane, flat, if_pos]

theorem plane_of_rank (other : t.shape.length = 0 ∨ 3 < t.shape.length) :
    plane t = .error (.rank t.shape.length) := by
  match shape : t.shape, other with
  | [], _ => simp only [plane, shape]
  | _ :: _ :: _ :: _ :: _, _ => simp only [plane, shape]

end Plane

/-- A box is shown, or its second axis is empty where it would be cut, or it has a number of axes that is not
plotted. -/
theorem plane_cases (t : Tensor Float) :
    (∃ p, plane t = .ok p ∧ Shows t p) ∨
      (∃ a c, t.shape = [a, 0, c] ∧ plane t = .error (.fault .outOfRange)) ∨
      (t.shape.length = 0 ∨ 3 < t.shape.length) ∧ plane t = .error (.rank t.shape.length) := by
  match shape : t.shape with
  | [_] | [_, _] | [_, _ + 1, _] => exact .inl (exists_plane (by simp [shape, HasPlane]))
  | [a, 0, c] => exact .inr (.inl ⟨a, c, rfl, plane_of_flat shape⟩)
  | [] | _ :: _ :: _ :: _ :: _ =>
      rw [← shape]
      have other : t.shape.length = 0 ∨ 3 < t.shape.length := by simp [shape]
      exact .inr (.inr ⟨other, plane_of_rank other⟩)

section Outcomes

variable {t : Tensor Float}

/-- What is plotted of a box is the plane that shows it. -/
theorem plane_eq_ok_iff {p : Tensor Float} : plane t = .ok p ↔ Shows t p := by
  constructor
  · intro made
    rcases plane_cases t with ⟨q, other, shows⟩ | ⟨_, _, _, fault⟩ | ⟨_, rank⟩
    · cases made.symm.trans other
      exact shows
    · cases made.symm.trans fault
    · cases made.symm.trans rank
  · intro shows
    obtain ⟨q, made, others⟩ := exists_plane shows.hasPlane
    rw [made, shows.unique others]

theorem plane_eq_rank_iff {axes : Nat} :
    plane t = .error (.rank axes) ↔ axes = t.shape.length ∧ (axes = 0 ∨ 3 < axes) := by
  constructor
  · intro refused
    rcases plane_cases t with ⟨_, made, _⟩ | ⟨_, _, _, fault⟩ | ⟨other, rank⟩
    · cases refused.symm.trans made
    · cases refused.symm.trans fault
    · cases refused.symm.trans rank
      exact ⟨rfl, other⟩
  · rintro ⟨rfl, other⟩
    exact plane_of_rank other

theorem plane_eq_fault_iff {fault : Fault} :
    plane t = .error (.fault fault) ↔ fault = .outOfRange ∧ ∃ a c, t.shape = [a, 0, c] := by
  constructor
  · intro ended
    rcases plane_cases t with ⟨_, made, _⟩ | ⟨a, c, flat, outside⟩ | ⟨_, rank⟩
    · cases ended.symm.trans made
    · cases ended.symm.trans outside
      exact ⟨rfl, a, c, flat⟩
    · cases ended.symm.trans rank
  · rintro ⟨rfl, a, c, flat⟩
    exact plane_of_flat flat

end Outcomes

/-- Lines, planes, and bodies whose second axis is not empty are plotted, each as the plane that shows it.
Boxes with no axis or more than three are refused with their number of axes.  A body whose second axis is
empty is cut at a point that does not exist, and nothing else ends in a fault. -/
theorem plane_answer (t : Tensor Float) :
    ((∃ p, plane t = .ok p) ↔ HasPlane t.shape) ∧ (∀ p, plane t = .ok p ↔ Shows t p) ∧
      (∀ axes, plane t = .error (.rank axes) ↔ axes = t.shape.length ∧ (axes = 0 ∨ 3 < axes)) ∧
      ∀ fault, plane t = .error (.fault fault) ↔ fault = .outOfRange ∧ ∃ a c, t.shape = [a, 0, c] := by
  refine ⟨⟨?_, ?_⟩, fun _ => plane_eq_ok_iff, fun _ => plane_eq_rank_iff, fun _ => plane_eq_fault_iff⟩
  · rintro ⟨p, made⟩
    exact (plane_eq_ok_iff.mp made).hasPlane
  · intro has
    obtain ⟨p, made, _⟩ := exists_plane has
    exact ⟨p, made⟩

/-- Two slices of no columns have no middle column, and are not refused either. -/
theorem not_refused_emptyColumns :
    (Tensor.full [2, 0, 3] 0.0).shape.length = 3 ∧
      plane (Tensor.full [2, 0, 3] 0.0) = .error (.fault .outOfRange) ∧
      ∀ axes, plane (Tensor.full [2, 0, 3] 0.0) ≠ .error (.rank axes) := by
  have ended : plane (Tensor.full [2, 0, 3] 0.0) = .error (.fault .outOfRange) := plane_of_flat rfl
  refine ⟨rfl, ended, fun axes refused => ?_⟩
  cases ended.symm.trans refused

end Plot

end WaveMedium
