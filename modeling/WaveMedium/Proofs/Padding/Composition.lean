/-
Module: WaveMedium.Proofs.Padding.Composition
Purpose: Padding twice is padding once by both margins together.
Main exports:
  enlarge_enlarge, nearestCell_nearestCell, coversIndex_add, Tensor.paddedValue_paddedValue,
  Tensor.pad_pad
-/
import WaveMedium.Field.Stored
import WaveMedium.Proofs.Padding.Pointwise

namespace WaveMedium

/-! ### Margins around margins -/

/-- Two margins around one axis, the second around the first. -/
instance : Add Margin where
  add inner outer := ⟨inner.before + outer.before, inner.after + outer.after⟩

@[simp] theorem Margin.before_add (inner outer : Margin) :
    (inner + outer).before = inner.before + outer.before := rfl

@[simp] theorem Margin.after_add (inner outer : Margin) :
    (inner + outer).after = inner.after + outer.after := rfl

theorem enlarge_enlarge (shape : List Nat) (first second : List Margin) :
    enlarge (enlarge shape first) second = enlarge shape (List.zipWith (· + ·) first second) := by
  induction shape generalizing first second with
  | nil => rfl
  | cons n shape ih =>
      cases first with
      | nil => rfl
      | cons inner first =>
          cases second with
          | nil => rfl
          | cons outer second =>
              have rest := ih first second
              simp only [enlarge, List.zipWith_cons_cons, Margin.before_add, Margin.after_add] at rest ⊢
              rw [rest]
              congr 1
              omega

theorem Margin.nearest_nearest (inner outer : Margin) (n i : Nat) :
    inner.nearest n (outer.nearest (n + inner.before + inner.after) i) =
      (inner + outer).nearest n i := by
  simp only [Margin.nearest, Margin.before_add]
  omega

/-- The cell nearest to the cell of the first padded box that is nearest to an index of the second is the
nearest cell behind both margins. -/
theorem nearestCell_nearestCell (shape index : List Nat) (first second : List Margin) :
    nearestCell first shape (nearestCell second (enlarge shape first) index) =
      nearestCell (List.zipWith (· + ·) first second) shape index := by
  induction shape generalizing index first second with
  | nil => cases first <;> cases second <;> rfl
  | cons n shape ih =>
      cases first with
      | nil => rfl
      | cons inner first =>
          cases second with
          | nil => rfl
          | cons outer second =>
              cases index with
              | nil => rfl
              | cons i index =>
                  change inner.nearest n (outer.nearest (n + inner.before + inner.after) i) ::
                      nearestCell first shape (nearestCell second (enlarge shape first) index) =
                    (inner + outer).nearest n i ::
                      nearestCell (List.zipWith (· + ·) first second) shape index
                  rw [inner.nearest_nearest outer, ih index first second]

theorem Margin.covers_add (inner outer : Margin) (n i : Nat) :
    (inner + outer).covers n i =
      (outer.covers (n + inner.before + inner.after) i &&
        inner.covers n (outer.nearest (n + inner.before + inner.after) i)) := by
  rw [Bool.eq_iff_iff, Bool.and_eq_true, covers_iff, covers_iff, covers_iff, before_add]
  unfold Margin.nearest
  omega

/-- An index lies over the box if it lies over the first padded box and the cell of that box which it then
repeats lies over the box. -/
theorem coversIndex_add (shape index : List Nat) (first second : List Margin) :
    coversIndex (List.zipWith (· + ·) first second) shape index =
      (coversIndex second (enlarge shape first) index &&
        coversIndex first shape (nearestCell second (enlarge shape first) index)) := by
  induction shape generalizing index first second with
  | nil => cases first <;> cases second <;> rfl
  | cons n shape ih =>
      cases first with
      | nil => cases second <;> rfl
      | cons inner first =>
          cases second with
          | nil => rfl
          | cons outer second =>
              cases index with
              | nil => rfl
              | cons i index =>
                  have rest := ih index first second
                  have axis := inner.covers_add outer n i
                  change ((inner + outer).covers n i &&
                      coversIndex (List.zipWith (· + ·) first second) shape index) =
                    ((outer.covers (n + inner.before + inner.after) i &&
                        coversIndex second (enlarge shape first) index) &&
                      (inner.covers n (outer.nearest (n + inner.before + inner.after) i) &&
                        coversIndex first shape (nearestCell second (enlarge shape first) index)))
                  rw [rest, axis]
                  ac_rfl

/-! ### Boxes padded twice -/

theorem length_enlarge {shape : List Nat} {margins : List Margin}
    (ranks : margins.length = shape.length) : (enlarge shape margins).length = shape.length := by
  rw [enlarge, List.length_zipWith, ranks, Nat.min_self]

/-- Lengths that can be counted outside a second margin can be counted inside it. -/
theorem sizesFit_enlarge {shape : List Nat} {margins : List Margin}
    (ranks : margins.length = shape.length) (fit : SizesFit (enlarge shape margins)) :
    SizesFit shape := by
  induction shape generalizing margins with
  | nil => exact fun n member => absurd member List.not_mem_nil
  | cons k shape ih =>
      cases margins with
      | nil => simp at ranks
      | cons margin margins =>
          obtain ⟨axis, rest⟩ := List.forall_mem_cons.mp fit
          have whole : k + margin.before + margin.after < sizeLimit := axis
          have small : k < sizeLimit := by omega
          exact List.forall_mem_cons.mpr ⟨small, ih (by simpa using ranks) rest⟩

namespace Tensor

variable {t : Tensor Float} {first second : List Margin}

/-- The value of a box padded twice is that of the box padded by both margins together. -/
theorem paddedValue_paddedValue (filling : Filling) {index : List Nat}
    (inside : InBox (enlarge t.shape first) (nearestCell second (enlarge t.shape first) index)) :
    (ofFn (enlarge t.shape first) (t.paddedValue first filling)).paddedValue second filling index =
      t.paddedValue (List.zipWith (· + ·) first second) filling index := by
  have repeated : (ofFn (enlarge t.shape first) (t.paddedValue first filling)).getD
      (nearestCell second (enlarge t.shape first) index) 0.0 =
        t.paddedValue first filling (nearestCell second (enlarge t.shape first) index) :=
    getD_eq (get?_ofFn _ inside) 0.0
  cases filling with
  | edge =>
      rw [paddedValue_edge, shape_ofFn, repeated, paddedValue_edge, paddedValue_edge,
        nearestCell_nearestCell]
  | constant value =>
      -- Outside the first padded box the second margin is filled; the rest of the margins was filled
      -- before, so that the cell which is repeated holds the constant already.
      rw [paddedValue_constant, shape_ofFn, repeated, paddedValue_constant, paddedValue_constant,
        nearestCell_nearestCell, coversIndex_add]
      cases coversIndex second (enlarge t.shape first) index with
      | false => rfl
      | true => rfl

theorem pad_bind_pad (filling : Filling) (positive : ∀ n ∈ t.shape, 0 < n)
    (inner : first.length = t.shape.length) (outer : second.length = t.shape.length) :
    (t.pad first filling >>= fun padded => padded.pad second filling) =
      t.pad (List.zipWith (· + ·) first second) filling := by
  have both : (List.zipWith (· + ·) first second).length = t.shape.length := by
    rw [List.length_zipWith, inner, outer, Nat.min_self]
  have ranks : second.length = (enlarge t.shape first).length := by
    rw [length_enlarge inner, outer]
  by_cases fit : SizesFit (enlarge t.shape (List.zipWith (· + ·) first second))
  · have whole : SizesFit (enlarge (enlarge t.shape first) second) := by
      rwa [enlarge_enlarge]
    have once := sizesFit_enlarge ranks whole
    rw [pad_eq_ok filling positive inner once, bind_ok,
      pad_eq_ok filling (enlarge_pos positive) ranks whole, pad_eq_ok filling positive both fit,
      shape_ofFn]
    congr 1
    refine ext_get? (enlarge_enlarge ..) fun index inside => ?_
    rw [shape_ofFn] at inside
    have nearby := inBox_nearestCell ranks (enlarge_pos positive) inside
    have same : InBox (enlarge t.shape (List.zipWith (· + ·) first second)) index := by
      rwa [← enlarge_enlarge]
    rw [get?_ofFn _ inside, get?_ofFn _ same, paddedValue_paddedValue filling nearby]
  · rw [pad_of_not_fit filling both fit]
    by_cases once : SizesFit (enlarge t.shape first)
    · have wide : ¬ SizesFit (enlarge (enlarge t.shape first) second) := by
        rwa [enlarge_enlarge]
      rw [pad_eq_ok filling positive inner once, bind_ok]
      exact pad_of_not_fit filling ranks wide
    · rw [pad_of_not_fit filling inner once]
      rfl

/-- A layer of one width and a halo around it are the margins over which a field continues values. -/
theorem zipWith_even_add (layer : Nat) (halo : List Margin) :
    List.zipWith (· + ·) (List.replicate halo.length (Margin.even layer)) halo =
      halo.map fun margin => ⟨layer + margin.before, layer + margin.after⟩ := by
  induction halo with
  | nil => rfl
  | cons margin halo ih =>
      rw [List.length_cons, List.replicate_succ, List.zipWith_cons_cons, ih]
      rfl

/-- Padding a box without empty axes twice with one filling gives, bit for bit, what padding it once by both
margins together gives, and that is a box wherever its lengths can be counted.  In particular values are
padded by the absorbing layer and then by a field's halo as they are padded by both at once. -/
theorem pad_pad (t : Tensor Float) (first second : List Margin) (filling : Filling)
    (positive : ∀ n ∈ t.shape, 0 < n) (inner : first.length = t.shape.length)
    (outer : second.length = t.shape.length) :
    (t.pad first filling >>= fun padded => padded.pad second filling) =
        t.pad (List.zipWith (· + ·) first second) filling ∧
      (SizesFit (enlarge t.shape (List.zipWith (· + ·) first second)) →
        ∃ padded, t.pad (List.zipWith (· + ·) first second) filling = .ok padded) ∧
      ∀ (field : StoredField) (layer : Nat), field.halo.length = t.shape.length →
        (t.pad (List.replicate t.shape.length (Margin.even layer)) filling >>= fun padded =>
            padded.pad field.halo filling) =
          t.pad (field.margins layer) filling := by
  refine ⟨pad_bind_pad filling positive inner outer, fun fit => ?_, fun field layer halos => ?_⟩
  · have both : (List.zipWith (· + ·) first second).length = t.shape.length := by
      rw [List.length_zipWith, inner, outer, Nat.min_self]
    exact ⟨_, pad_eq_ok filling positive both fit⟩
  · rw [pad_bind_pad filling positive (by simp) halos, ← halos, zipWith_even_add]
    rfl

/-- Two rows behind a lopsided margin and another one around it. -/
theorem pad_pad_twoRows :
    ((∀ n ∈ twoRows.shape, 0 < n) ∧
      ([⟨1, 0⟩, ⟨0, 2⟩] : List Margin).length = twoRows.shape.length ∧
      ([⟨1, 1⟩, ⟨2, 0⟩] : List Margin).length = twoRows.shape.length) ∧
    (twoRows.pad [⟨1, 0⟩, ⟨0, 2⟩] (.constant 5.0) >>= fun padded =>
        padded.pad [⟨1, 1⟩, ⟨2, 0⟩] (.constant 5.0)) =
      twoRows.pad [⟨2, 1⟩, ⟨2, 2⟩] (.constant 5.0) ∧
    ∃ padded, twoRows.pad [⟨2, 1⟩, ⟨2, 2⟩] (.constant 5.0) = .ok padded := by
  have positive : ∀ n ∈ twoRows.shape, 0 < n := by decide
  have twice := pad_pad twoRows [⟨1, 0⟩, ⟨0, 2⟩] [⟨1, 1⟩, ⟨2, 0⟩] (.constant 5.0) positive rfl rfl
  exact ⟨⟨positive, rfl, rfl⟩, twice.1, twice.2.1 (by decide)⟩

-- With an empty axis the second margin may stand where the sum of both would ask for a value.
example :
    ((full [0] 1.0).pad [⟨1, 0⟩] (.constant 5.0) >>= fun padded =>
        padded.pad [⟨0, 1⟩] (.constant 5.0)).toBool = true ∧
      ((full [0] 1.0).pad [⟨1, 1⟩] (.constant 5.0)).toBool = false := by decide +kernel

end Tensor

end WaveMedium
