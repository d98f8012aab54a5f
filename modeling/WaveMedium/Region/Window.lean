/-
Module: WaveMedium.Region.Window
Purpose: The part of a box that a region selects.
Main exports:
  Region.inset, Region.shape, Window, windows, Tensor.window, Tensor.fill, Region.crop
-/
import WaveMedium.Error
import WaveMedium.Tensor.Basic

namespace WaveMedium

/-- The region left of a padded box when a layer of the given width is taken off every face. -/
def Region.inset {α : Type} (shape : List Nat) (width : Nat) : Except (Failure α) Region := do
  checkSizes (shape.map (width + ·))
  return ⟨shape.map fun n => ⟨width, width + n⟩⟩

/-- The lengths of the spans.  A span that ends before it starts has none. -/
def Region.shape (region : Region) : Outcome (List Nat) :=
  if region.spans.all fun span => span.start ≤ span.stop then
    .ok (region.spans.map fun span => span.stop - span.start)
  else .error (.fault .sizeUnderflow)

/-! ### Windows -/

/-- A run of cells inside an axis. -/
structure Window where
  start : Nat
  length : Nat
deriving DecidableEq, Repr

/-- The cell of an axis at which a span's bound lies.  A bound up to the axis' length is itself; one
of at least two to the sixty-third is a negative number and counts back from the end. -/
def Span.bound (length value : Nat) : Outcome Nat :=
  if value ≤ length then .ok value
  else if sizeLimit ≤ 2 * value ∧ sizeLimit - value ≤ length then .ok (length - (sizeLimit - value))
  else .error (.fault .outOfRange)

/-- The run that a span selects from an axis.  A span that ends before it starts selects nothing. -/
def Span.window (span : Span) (length : Nat) : Outcome Window := do
  let start ← Span.bound length span.start
  let stop ← Span.bound length span.stop
  return ⟨start, stop - start⟩

/-- The run that a region selects from each axis.  Spans beyond the last axis are not used, and an
axis without a span is a fault. -/
def windows : List Span → List Nat → Outcome (List Window)
  | _, [] => .ok []
  | [], _ :: _ => .error (.fault .outOfRange)
  | span :: spans, n :: shape => do
      let window ← span.window n
      let others ← windows spans shape
      return window :: others

/-- The index in the box of an index in the windows. -/
def Window.shift (windows : List Window) (index : List Nat) : List Nat :=
  List.zipWith (fun window i => window.start + i) windows index

/-- Whether an index of the box lies in all windows. -/
def Window.cover (windows : List Window) (index : List Nat) : Bool :=
  (List.zipWith (fun window i => decide (window.start ≤ i ∧ i < window.start + window.length))
    windows index).all id

/-- The cells in the windows. -/
def Tensor.window (t : Tensor Float) (windows : List Window) : Tensor Float :=
  Tensor.ofFn (windows.map (·.length)) fun index => t.getD (Window.shift windows index) 0.0

/-- Write one value into the cells in the windows. -/
def Tensor.fill (t : Tensor Float) (windows : List Window) (value : Float) : Tensor Float :=
  t.mapIdx fun index old => if Window.cover windows index then value else old

@[simp] theorem Tensor.shape_window (t : Tensor Float) (windows : List Window) :
    (t.window windows).shape = windows.map (·.length) := rfl

@[simp] theorem Tensor.shape_fill (t : Tensor Float) (windows : List Window) (value : Float) :
    (t.fill windows value).shape = t.shape := rfl

/-- The cells that a region selects. -/
def Region.crop (region : Region) (t : Tensor Float) : Outcome (Tensor Float) := do
  let chosen ← windows region.spans t.shape
  return t.window chosen

end WaveMedium
