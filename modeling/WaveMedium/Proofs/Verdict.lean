/-
Module: WaveMedium.Proofs.Verdict
Purpose: Computations that either succeed or are rejected for the first of several reasons.
Main exports:
  Answers, Answers.bind, Answers.eq_error_iff, RockTable.answers_ofFnM, Quantity.misfit?,
  Geometry.answers_new, Geometry.Fits.answers_field, Geometry.Fits.answers_absorption
-/
import WaveMedium.Proofs.Construction

namespace WaveMedium

/-! ### Objections -/

/-- A computation is rejected for the given reason.  Without a reason it succeeds, so there is never a
fault. -/
def Answers {β : Type} (outcome : Outcome β) : Option (ModelError Float) → Prop
  | some error => outcome = .error (.rejected error)
  | none => ∃ value, outcome = .ok value

namespace Answers

variable {β γ : Type} {outcome : Outcome β} {objection : Option (ModelError Float)}

theorem ok (value : β) : Answers (.ok value) none := ⟨value, rfl⟩

theorem eq_error_iff (answers : Answers outcome objection) (failure : Failure Float) :
    outcome = .error failure ↔ ∃ error, objection = some error ∧ failure = .rejected error := by
  cases objection with
  | none =>
      obtain ⟨value, rfl⟩ := answers
      simp
  | some error =>
      have rejected : outcome = .error (.rejected error) := answers
      simp [rejected, eq_comm]

/-- Of two steps the first decides if it objects.  Otherwise the second decides, whatever the value is
from which it goes on. -/
theorem bind {next : β → Outcome γ} {later : Option (ModelError Float)}
    (first : Answers outcome objection)
    (second : ∀ value, outcome = .ok value → Answers (next value) later) :
    Answers (outcome >>= next) (objection.or later) := by
  cases objection with
  | some error =>
      have rejected : outcome = .error (.rejected error) := first
      rw [rejected]
      rfl
  | none =>
      obtain ⟨value, rfl⟩ := first
      exact second value rfl

/-- What succeeds has no objection. -/
theorem eq_none_of_ok {value : β} (answers : Answers (.ok value) objection) : objection = none := by
  cases objection with
  | none => rfl
  | some error => cases answers

end Answers

/-- The first of many finds is that of the first element, or else that of the others. -/
theorem findSome?_cons_eq_or {α β : Type} (f : α → Option β) (first : α) (others : List α) :
    (first :: others).findSome? f = (f first).or (others.findSome? f) := by
  cases found : f first <;> simp [found]

/-- A table whose entries are computed one after the other is rejected for the first objection in the order
of the properties. -/
theorem RockTable.answers_ofFnM {α : Type} {entry : RockProperty → Outcome α}
    {objection : RockProperty → Option (ModelError Float)}
    (each : ∀ property, Answers (entry property) (objection property)) :
    Answers (RockTable.ofFnM entry) (RockProperty.all.findSome? objection) := by
  simp only [RockProperty.all, findSome?_cons_eq_or]
  refine (each .solidDensity).bind fun _ _ => ?_
  refine (each .fluidDensity).bind fun _ _ => ?_
  refine (each .drainedBulkModulus).bind fun _ _ => ?_
  refine (each .solidBulkModulus).bind fun _ _ => ?_
  refine (each .fluidBulkModulus).bind fun _ _ => ?_
  refine (each .fluidViscosity).bind fun _ _ => ?_
  refine (each .porosity).bind fun _ _ => ?_
  refine (each .permeability).bind fun _ _ => ?_
  refine (each .shearModulus).bind fun _ _ => ?_
  exact (each .tortuosity).bind fun _ _ => .ok _

/-! ### The padded grid -/

/-- What keeps a layout from having a geometry: that it is not a physical grid, or that a supplied grid
differs from the one that it asks for. -/
theorem Geometry.answers_new {layout : Layout Float}
    (fit : SizesFit (layout.shape.map (· + 2 * layout.layer))) (supplied : Option (Grid Float)) :
    Answers (Geometry.new layout supplied)
      ((layout.defect?.map .layout).or ((supplied.bind layout.difference?).map .mismatch)) := by
  cases found : layout.defect? with
  | some defect => exact new_of_defect found supplied
  | none =>
      have valid : layout.validate = .ok () := by rw [Layout.validate, found]
      cases supplied with
      | none => exact ⟨_, new_none_eq valid fit⟩
      | some grid =>
          rw [new_some_eq valid fit]
          cases different : layout.difference? grid with
          | some difference => simp [Answers, different]
          | none => simp [Answers, different]

/-! ### Fields -/

/-- What keeps a quantity from being made a field: it has one value per point, and they do not cover the
physical region. -/
def Quantity.misfit? (name : String) (shape : List Nat) : Quantity → Option (ModelError Float)
  | .uniform _ => none
  | .varying values =>
      if values.shape = shape then none else some (.shape name shape values.shape)

@[simp] theorem Quantity.misfit?_map {name : String} {shape : List Nat} (quantity : Quantity)
    (f : Float → Float) : (quantity.map f).misfit? name shape = quantity.misfit? name shape := by
  cases quantity <;> rfl

theorem Quantity.misfit?_eq_none_iff {name : String} {shape : List Nat} {quantity : Quantity} :
    quantity.misfit? name shape = none ↔ quantity.Fills shape := by
  cases quantity with
  | uniform value => exact ⟨fun _ => trivial, fun _ => rfl⟩
  | varying values => simp [misfit?, Fills]

namespace Geometry

variable {geometry : Geometry Float} {layout : Layout Float} {order : Nat}

theorem Fits.answers_field (fits : geometry.Fits layout) (fit : SizesFit (layout.storageShape order))
    (name : String) (quantity : Quantity) :
    Answers (geometry.field name quantity order) (quantity.misfit? name layout.shape) := by
  cases quantity with
  | uniform value => exact .ok _
  | varying values =>
      obtain ⟨blank, zeroed⟩ := StoredField.exists_ofOrder name ((fits.enlarge_eq order).symm ▸ fit)
      rw [Quantity.misfit?, ← fits.shape]
      split
      · rename_i fills
        exact ⟨_, fits.field_varying zeroed fills⟩
      · rename_i apart
        have named := (StoredField.frameOf_ofOrder zeroed).name
        have refused : (geometry.extend values).result blank =
            .error (.rejected (.shape blank.name geometry.shape values.shape)) :=
          Change.result_eq_error (perform_extend_of_ne apart)
        simp only [Answers, field, zeroed, bind_ok, refused, named]
        rfl

theorem Fits.answers_absorption (fits : geometry.Fits layout)
    (axes : geometry.spacing.length = layout.shape.length) (role : Absorption.Role) :
    Answers (geometry.absorption role) none := by
  obtain ⟨field, made, _⟩ := fits.exists_absorption axes role
  exact ⟨field, made⟩

end Geometry

end WaveMedium
