/-
Module: WaveMedium.Proofs.Settings
Purpose: Which settings are accepted, compared with which layouts are.
Main exports:
  MediumSettings.defect?_eq_none_iff, MediumSettings.defect?_eq_none_and_finite_iff,
  Settings.validate_and_finite_iff
-/
import WaveMedium.Proofs.Geometry
import WaveMedium.Settings.Basic

namespace WaveMedium

/-! ### Scenarios -/

theorem Scenario.ofName?_eq_none_iff {name : String} :
    Scenario.ofName? name = none ↔ name ∉ Scenario.all.map Scenario.name := by
  simp [Scenario.ofName?, List.find?_eq_none]

/-! ### The medium -/

namespace MediumSettings

variable {α : Type} [Scalar α] {settings : MediumSettings α}

/-- The settings of a medium have no defect exactly if each of the checks passes. -/
theorem defect?_eq_none_iff :
    settings.defect? = none ↔
      settings.scenario ∈ Scenario.all.map Scenario.name ∧
        (settings.shape ≠ [] ∧ settings.shape.length ≤ 3) ∧
        settings.spacing.length = settings.shape.length ∧
        settings.layout.origin.length = settings.shape.length ∧
        (∀ n ∈ settings.shape, 0 < n) ∧
        settings.spacing.any (Scalar.atMost · (Scalar.ofNat 0)) = false := by
  have origins : settings.origin.any (·.length ≠ settings.shape.length) = false ↔
      settings.layout.origin.length = settings.shape.length := by
    cases given : settings.origin with
    | none => simp [layout, given]
    | some origin => simp [layout, given]
  have positive : 0 ∉ settings.shape ↔ ∀ n ∈ settings.shape, 0 < n := by
    constructor
    · intro occupied n axis
      exact Nat.pos_of_ne_zero fun empty => occupied (empty ▸ axis)
    · intro occupied axis
      exact absurd (occupied 0 axis) (Nat.lt_irrefl 0)
  rw [← origins, ← positive, defect?]
  simp only [ite_some_eq_none, Scenario.ofName?_eq_none_iff, Decidable.not_not, not_or, ne_eq,
    List.length_eq_zero_iff, Nat.not_lt, Bool.not_eq_true, and_true]

/-- No distance is bad exactly if all are positive and finite. -/
theorem any_badStep_eq_false_iff {steps : List α} :
    steps.any Layout.badStep = false ↔
      steps.any (Scalar.atMost · (Scalar.ofNat 0)) = false ∧
        ∀ step ∈ steps, Scalar.isFinite step = true := by
  simp only [List.any_eq_false, Layout.badStep, Bool.or_eq_true, not_or, Bool.not_eq_true,
    Bool.not_eq_false', forall_and]

/-- Settings without a defect whose distances are finite have a valid layout, and from a valid layout and
a known scenario there are no other settings. -/
theorem defect?_eq_none_and_finite_iff :
    (settings.defect? = none ∧ ∀ step ∈ settings.spacing, Scalar.isFinite step = true) ↔
      settings.scenario ∈ Scenario.all.map Scenario.name ∧ settings.layout.validate = .ok () := by
  have steps : settings.layout.spacing.any Layout.badStep = false ↔
      settings.spacing.any (Scalar.atMost · (Scalar.ofNat 0)) = false ∧
        ∀ step ∈ settings.spacing, Scalar.isFinite step = true :=
    any_badStep_eq_false_iff
  rw [defect?_eq_none_iff, Layout.validate_eq_ok_iff, steps]
  constructor
  · rintro ⟨⟨known, rank, steps, starts, positive, above⟩, finite⟩
    exact ⟨known, ⟨starts.trans steps.symm, steps⟩, rank, positive, above, finite⟩
  · rintro ⟨known, ⟨starts, steps⟩, rank, positive, above, finite⟩
    exact ⟨⟨known, rank, steps, starts.trans steps, positive, above⟩, finite⟩

end MediumSettings

/-! ### The whole settings -/

namespace Settings

variable {α : Type} [Scalar α]

theorem validate_eq_ok_iff {settings : Settings α} :
    settings.validate = .ok () ↔
      settings.medium.defect? = none ∧
        settings.output.imageWidth ≠ 0 ∧ settings.output.imageHeight ≠ 0 := by
  have sound : settings.validate = .ok () ↔ settings.defect? = none := by
    unfold validate
    split
    · rename_i defect found
      simp [found]
    · rename_i free
      simp [free]
  have first : settings.defect? = none ↔
      settings.medium.defect? = none ∧ (settings.output.defect? : Option (SettingsError α)) = none := by
    simp [defect?]
  rw [sound, first, OutputSettings.defect?]
  simp only [ite_some_eq_none, not_or, ne_eq, and_true]

/-- Settings are accepted with finite distances exactly if their scenario is known, the layout that they
describe is accepted, and the image has points.  Finiteness is what the two checks do not share. -/
theorem validate_and_finite_iff (settings : Settings Float) :
    (settings.validate = .ok () ∧ ∀ step ∈ settings.medium.spacing, step.isFinite = true) ↔
      settings.medium.scenario ∈ Scenario.all.map Scenario.name ∧
        settings.medium.layout.validate = .ok () ∧
        settings.output.imageWidth ≠ 0 ∧ settings.output.imageHeight ≠ 0 := by
  have medium : (settings.medium.defect? = none ∧
        ∀ step ∈ settings.medium.spacing, step.isFinite = true) ↔
      settings.medium.scenario ∈ Scenario.all.map Scenario.name ∧
        settings.medium.layout.validate = .ok () :=
    MediumSettings.defect?_eq_none_and_finite_iff
  rw [validate_eq_ok_iff, and_right_comm, medium, and_assoc]

/-- A line of four points that are infinitely far from each other. -/
def endlessLine : Settings Float where
  medium :=
    { scenario := "constant-isotropic", shape := [4], spacing := [positiveInfinity], origin := none,
      layer := 2, spaceOrder := 4, precision := .single }
  output := {}

/-- The endless line is accepted, its layout is not. -/
theorem not_validate_iff_endlessLine :
    ¬ (endlessLine.validate = .ok () ↔
      endlessLine.medium.scenario ∈ Scenario.all.map Scenario.name ∧
        endlessLine.medium.layout.validate = .ok () ∧
        endlessLine.output.imageWidth ≠ 0 ∧ endlessLine.output.imageHeight ≠ 0) := by
  have accepted : endlessLine.validate = .ok () :=
    validate_eq_ok_iff.mpr ⟨by decide, by decide, by decide⟩
  have apart : endlessLine.medium.layout.spacing.any Layout.badStep = true := by decide
  intro agree
  obtain ⟨_, placed, _⟩ := agree.mp accepted
  obtain ⟨_, _, _, near⟩ := Layout.validate_eq_ok_iff.mp placed
  rw [apart] at near
  cases near

end Settings

end WaveMedium
