/-
Module: WaveMedium.Region.Basic
Purpose: Ranges of indices along the axes of a grid.
Main exports:
  Span, Region, Margin, enlarge, shrink, MarginsFit
-/

namespace WaveMedium

/-- The indices from `start` up to but not including `stop`. -/
structure Span where
  start : Nat
  stop : Nat
deriving DecidableEq, Repr, Inhabited

/-- One span per axis. -/
structure Region where
  spans : List Span
deriving DecidableEq, Repr, Inhabited

/-- How many cells are added before and after an axis. -/
structure Margin where
  before : Nat
  after : Nat
deriving DecidableEq, Repr, Inhabited

/-- The same margin on both sides. -/
def Margin.even (width : Nat) : Margin := ⟨width, width⟩

/-! ### Margins around a shape -/

/-- A shape with a margin added to each axis.  The shorter of the two lists decides the rank. -/
def enlarge (shape : List Nat) (margins : List Margin) : List Nat :=
  List.zipWith (fun n margin => n + margin.before + margin.after) shape margins

/-- A shape with a margin taken from each axis. -/
def shrink (shape : List Nat) (margins : List Margin) : List Nat :=
  List.zipWith (fun n margin => n - margin.before - margin.after) shape margins

/-- Every axis of the shape has a margin, and is at least as long as the margin is wide. -/
def MarginsFit : List Nat → List Margin → Prop
  | [], _ => True
  | n :: shape, margin :: margins => margin.before + margin.after ≤ n ∧ MarginsFit shape margins
  | _ :: _, [] => False

theorem marginsFit_enlarge (shape : List Nat) (margins : List Margin) :
    MarginsFit (enlarge shape margins) margins := by
  induction shape generalizing margins with
  | nil => trivial
  | cons n shape ih =>
      cases margins with
      | nil => trivial
      | cons margin margins =>
          have wide : margin.before + margin.after ≤ n + margin.before + margin.after := by omega
          exact ⟨wide, ih margins⟩

/-- Taking the margins away undoes adding them, on the axes that have one. -/
theorem shrink_enlarge_take (shape : List Nat) (margins : List Margin) :
    shrink (enlarge shape margins) margins = shape.take margins.length := by
  induction shape generalizing margins with
  | nil => cases margins <;> rfl
  | cons n shape ih =>
      cases margins with
      | nil => rfl
      | cons margin margins =>
          have rest := ih margins
          simp only [enlarge, shrink, List.zipWith_cons_cons, List.length_cons,
            List.take_succ_cons] at rest ⊢
          rw [rest]
          congr 1
          omega

theorem shrink_enlarge {shape : List Nat} {margins : List Margin}
    (enough : shape.length ≤ margins.length) :
    shrink (enlarge shape margins) margins = shape := by
  rw [shrink_enlarge_take, List.take_of_length_le enough]

/-- Where every axis is as long as its margin is wide, adding the margins undoes taking them away. -/
theorem enlarge_shrink {shape : List Nat} {margins : List Margin} (fits : MarginsFit shape margins) :
    enlarge (shrink shape margins) margins = shape := by
  induction shape generalizing margins with
  | nil => cases margins <;> rfl
  | cons n shape ih =>
      cases margins with
      | nil => exact absurd fits id
      | cons margin margins =>
          have wide : margin.before + margin.after ≤ n := fits.1
          have rest := ih fits.2
          simp only [enlarge, shrink, List.zipWith_cons_cons] at rest ⊢
          rw [rest]
          congr 1
          omega

end WaveMedium
