/-
Module: WaveMedium.Proofs.Absorption.Medium
Purpose: The absorbing layer of every medium that was built.
Main exports:
  absorption_of_build
-/
import WaveMedium.Proofs.Absorption.Field
import WaveMedium.Proofs.Acoustic.Fields
import WaveMedium.Proofs.Poroelastic.Fields

namespace WaveMedium

theorem AcousticMedium.encloses_absorption {inputs : Inputs} {medium : AcousticMedium}
    (built : build inputs = .ok medium) :
    Absorption.Encloses medium.absorption medium.geometry 0.0 := by
  have assembled := assembled_of_build built
  have axes := Geometry.length_spacing_of_new assembled.geometry
  exact assembled.fits.encloses_absorption axes (cast_absent _).2 assembled.absorption

theorem PoroelasticMedium.encloses_absorption {inputs : Inputs} {medium : PoroelasticMedium}
    (built : build inputs = .ok medium) :
    Absorption.Encloses medium.absorption medium.geometry 1.0 := by
  have assembled := assembled_of_build built
  have axes := Geometry.length_spacing_of_new assembled.geometry
  exact assembled.fits.encloses_absorption axes (AcousticMedium.cast_absent _).1
    assembled.absorption

/-- The absorbing layer of a medium that was built covers the padded grid without a halo and looks the
same from both ends of every axis.  In the physical region it is zero in an acoustic medium, which it
damps, and one in a poroelastic medium, whose values it tapers. -/
theorem absorption_of_build :
    (∀ inputs medium, AcousticMedium.build inputs = .ok medium →
      Absorption.Encloses medium.absorption medium.geometry 0.0) ∧
      ∀ inputs medium, PoroelasticMedium.build inputs = .ok medium →
        Absorption.Encloses medium.absorption medium.geometry 1.0 := by
  constructor
  · intro inputs medium built
    exact AcousticMedium.encloses_absorption built
  · intro inputs medium built
    exact PoroelasticMedium.encloses_absorption built

/-- The layer around the plane, and the mask around the sandstone, whose ends are mirror images. -/
theorem absorption_of_build_plane_sandstone :
    (∃ medium, AcousticMedium.build AcousticMedium.planeInputs = .ok medium ∧
      Absorption.Encloses medium.absorption medium.geometry 0.0 ∧
      medium.absorption.storage.get? [3, 0] = medium.absorption.storage.get? [0, 4]) ∧
      ∃ medium, PoroelasticMedium.build PoroelasticMedium.sandstone = .ok medium ∧
        Absorption.Encloses medium.absorption medium.geometry 1.0 := by
  constructor
  · obtain ⟨medium, built⟩ := AcousticMedium.exists_build_planeInputs
    have encloses := absorption_of_build.1 _ _ built
    have lengths : medium.absorption.storage.shape = [4, 5] :=
      encloses.shape.trans (AcousticMedium.assembled_of_build built).fits.padded
    refine ⟨medium, built, encloses, encloses.mirrored _ _ ?_ ?_⟩
    · rw [lengths]
      decide
    · rw [lengths]
      decide
  · obtain ⟨medium, built, _⟩ := PoroelasticMedium.exists_build_sandstone
    exact ⟨medium, built, absorption_of_build.2 _ _ built⟩

end WaveMedium
