/-
Module: WaveMedium.Proofs.Repadding
Purpose: The widths of the absorbing layer and of the halo decide neither whether a medium can be built nor
  what its physical region shows.
Main exports:
  Layout.withLayer, Geometry.alike_field, AcousticMedium.SamePhysics, PoroelasticMedium.SamePhysics,
  build_withPadding
-/
import WaveMedium.Proofs.Construction
import WaveMedium.Proofs.Poroelastic.Covering

namespace WaveMedium

open Number

/-! ### Two geometries -/

/-- The same physical grid inside a layer of another width. -/
def Layout.withLayer (layout : Layout Float) (layer : Nat) : Layout Float :=
  { layout with layer := layer }

/-- Without a supplied grid values are stored in the precision that the layout asks for. -/
theorem Geometry.precision_of_new {layout : Layout Float} {geometry : Geometry Float}
    (built : Geometry.new layout none = .ok geometry) :
    geometry.grid.precision = layout.precision := by
  obtain rfl := eq_of_new_none built
  rfl

/-- Two geometries with the same physical points, which store values in the same precision. -/
structure Geometry.Parallel (a b : Geometry Float) (here there : Layout Float) : Prop where
  first : a.Fits here
  second : b.Fits there
  shape : here.shape = there.shape
  spacing : here.spacing = there.spacing
  precision : a.grid.precision = b.grid.precision

theorem Geometry.parallel_of_new {layout : Layout Float} {layer : Nat} {a b : Geometry Float}
    (here : Geometry.new layout none = .ok a)
    (there : Geometry.new (layout.withLayer layer) none = .ok b) :
    a.Parallel b layout (layout.withLayer layer) where
  first := fits_of_new here
  second := fits_of_new there
  shape := rfl
  spacing := rfl
  precision := (precision_of_new here).trans (precision_of_new there).symm

namespace Geometry.Parallel

variable {a b : Geometry Float} {here there : Layout Float}

theorem rank (parallel : a.Parallel b here there) : a.rank = b.rank := by
  rw [Geometry.rank, Geometry.rank, parallel.first.shape, parallel.second.shape, parallel.shape]

theorem leastSpacing (parallel : a.Parallel b here there) : a.leastSpacing = b.leastSpacing := by
  rw [Geometry.leastSpacing, Geometry.leastSpacing, parallel.first.spacing, parallel.second.spacing,
    parallel.spacing]

/-- Fields that repeat the same values are alike on the two geometries. -/
theorem alike_of_covers (parallel : a.Parallel b here there) {left right : Nat} {varies : Prop}
    {value : List Nat → Float} {x y : Field} (first : x.Covers here left varies value)
    (second : y.Covers there right varies value) : x.Alike y a.grid.interior b.grid.interior := by
  rw [parallel.first.interior, parallel.second.interior]
  exact first.alike parallel.shape parallel.first.positive second

/-- Fields of one quantity are alike on the two geometries. -/
theorem alike_field (parallel : a.Parallel b here there) {name : String} {quantity : Quantity}
    {left right : Nat} {x y : Field} (first : a.field name quantity left = .ok x)
    (second : b.field name quantity right = .ok y) : x.Alike y a.grid.interior b.grid.interior := by
  have covers := parallel.second.covers_field second
  rw [← parallel.precision] at covers
  exact parallel.alike_of_covers (parallel.first.covers_field first) covers

theorem alike_optionalField (parallel : a.Parallel b here there) {name : String}
    {quantity : Option Quantity} {absent : Float} {left right : Nat} {x y : Field}
    (first : AcousticMedium.optionalField a name quantity absent left = .ok x)
    (second : AcousticMedium.optionalField b name quantity absent right = .ok y) :
    x.Alike y a.grid.interior b.grid.interior := by
  rw [AcousticMedium.optionalField_eq] at first second
  exact parallel.alike_field first second

end Geometry.Parallel

/-! ### Acoustic media -/

namespace AcousticMedium

/-- The same inputs with other widths of the layer and of the halo. -/
def Inputs.withPadding (inputs : Inputs) (layer order : Nat) : Inputs :=
  { inputs with layout := inputs.layout.withLayer layer, spaceOrder := order }

/-- Two media show the same of the physical region. -/
structure SamePhysics (a b : AcousticMedium) : Prop where
  squaredSlowness :
    a.squaredSlowness.Alike b.squaredSlowness a.geometry.grid.interior b.geometry.grid.interior
  epsilon : a.epsilon.Alike b.epsilon a.geometry.grid.interior b.geometry.grid.interior
  delta : a.delta.Alike b.delta a.geometry.grid.interior b.geometry.grid.interior
  tilt : a.tilt.Alike b.tilt a.geometry.grid.interior b.geometry.grid.interior
  azimuth : a.azimuth.Alike b.azimuth a.geometry.grid.interior b.geometry.grid.interior
  scale : a.scale = b.scale
  criticalStep : a.criticalStep = b.criticalStep

/-- The scale depends on the largest value only up to the sign of zero. -/
theorem scaleOf_eq_of_alike {a b : Field} {here there : Region} (alike : a.Alike b here there) :
    scaleOf a = scaleOf b := by
  have representation := alike.representation
  cases a with
  | uniform a =>
      cases b with
      | uniform b => rfl
      | varying b => cases representation
  | varying a =>
      cases b with
      | uniform b => cases representation
      | varying b =>
          have largest : SameNumber a.largest b.largest := alike.largest
          unfold scaleOf
          dsimp only
          rcases largest with same | ⟨first, second⟩
          · rw [same]
          · rw [if_neg first.not_positive, if_neg second.not_positive]

theorem samePhysics_of_build {inputs : Inputs} {layer order : Nat} {a b : AcousticMedium}
    (noGrid : inputs.grid = none) (here : build inputs = .ok a)
    (there : build (inputs.withPadding layer order) = .ok b) : a.SamePhysics b := by
  have first := assembled_of_build here
  have second := assembled_of_build there
  have parallel : a.geometry.Parallel b.geometry inputs.layout (inputs.layout.withLayer layer) :=
    Geometry.parallel_of_new (noGrid ▸ first.geometry) (noGrid ▸ second.geometry)
  have epsilon := parallel.alike_optionalField first.epsilon second.epsilon
  have azimuth := first.azimuth
  rw [parallel.rank] at azimuth
  have scale : a.scale = b.scale := by
    rw [first.scale, second.scale, scaleOf_eq_of_alike epsilon]
  exact
    { squaredSlowness := parallel.alike_field first.slowness second.slowness
      epsilon := epsilon
      delta := parallel.alike_optionalField first.delta second.delta
      tilt := parallel.alike_optionalField first.tilt second.tilt
      azimuth := parallel.alike_optionalField azimuth second.azimuth
      scale := scale
      criticalStep := by
        rw [criticalStep, criticalStep, stableStep, stableStep, parallel.rank, parallel.leastSpacing,
          scale, first.velocity, second.velocity]
        rfl }

theorem exists_build_withPadding_iff {inputs : Inputs} {layer order : Nat}
    (noGrid : inputs.grid = none) (fit : SizesFit (inputs.layout.storageShape inputs.spaceOrder))
    (other : SizesFit ((inputs.layout.withLayer layer).storageShape order)) :
    (∃ medium, build inputs = .ok medium) ↔
      ∃ medium, build (inputs.withPadding layer order) = .ok medium := by
  have fill : inputs.Fill ↔ (inputs.withPadding layer order).Fill :=
    ⟨fun f => ⟨f.velocity, f.epsilon, f.delta, f.tilt, f.azimuth⟩,
      fun f => ⟨f.velocity, f.epsilon, f.delta, f.tilt, f.azimuth⟩⟩
  have again : (inputs.withPadding layer order).grid = none := noGrid
  rw [exists_build_iff_of_no_grid noGrid fit, exists_build_iff_of_no_grid again other, fill]
  exact Iff.rfl

end AcousticMedium

/-! ### Poroelastic media -/

namespace PoroelasticMedium

/-- The same inputs with other widths of the layer and of the halo. -/
def Inputs.withPadding (inputs : Inputs) (layer order : Nat) : Inputs :=
  { inputs with layout := inputs.layout.withLayer layer, spaceOrder := order }

/-- Two media show the same of the physical region. -/
structure SamePhysics (a b : PoroelasticMedium) : Prop where
  supplied : ∀ property, (a.supplied.get property).Alike (b.supplied.get property)
    a.geometry.grid.interior b.geometry.grid.interior
  derived : ∀ output, (a.derived.get output).Alike (b.derived.get output)
    a.geometry.grid.interior b.geometry.grid.interior
  criticalStep : ¬ IsZero a.derived.compressionalVelocity.largest → a.criticalStep = b.criticalStep

theorem samePhysics_of_build {inputs : Inputs} {layer order : Nat} {a b : PoroelasticMedium}
    (noGrid : inputs.grid = none) (here : build inputs = .ok a)
    (there : build (inputs.withPadding layer order) = .ok b) : a.SamePhysics b := by
  have first := assembled_of_build here
  have second := assembled_of_build there
  have parallel : a.geometry.Parallel b.geometry inputs.layout (inputs.layout.withLayer layer) :=
    Geometry.parallel_of_new (noGrid ▸ first.geometry) (noGrid ▸ second.geometry)
  have supplied : ∀ property, (a.supplied.get property).Alike (b.supplied.get property)
      a.geometry.grid.interior b.geometry.grid.interior := by
    intro property
    obtain ⟨quantity, found, one⟩ := first.supplied property
    obtain ⟨other, again, two⟩ := second.supplied property
    have same : some quantity = some other := found.symm.trans again
    cases same
    exact parallel.alike_field one two
  have derived : ∀ output, (a.derived.get output).Alike (b.derived.get output)
      a.geometry.grid.interior b.geometry.grid.interior := by
    intro output
    have varies : (fun property => (b.supplied.get property).representation = .varying) =
        fun property => (a.supplied.get property).representation = .varying := by
      funext property
      rw [(supplied property).representation]
    have covers := second.covers_derived output
    rw [varies, ← parallel.precision] at covers
    exact parallel.alike_of_covers (first.covers_derived output) covers
  refine ⟨supplied, derived, fun positive => ?_⟩
  have largest := (derived .compressionalVelocity).largest.eq_of_not_isZero positive
  change a.derived.compressionalVelocity.largest = b.derived.compressionalVelocity.largest at largest
  rw [criticalStep, criticalStep, parallel.leastSpacing, largest]

theorem exists_build_withPadding_iff {inputs : Inputs} {layer order : Nat}
    (noGrid : inputs.grid = none) (fit : SizesFit (inputs.layout.storageShape inputs.spaceOrder))
    (other : SizesFit ((inputs.layout.withLayer layer).storageShape order)) :
    (∃ medium, build inputs = .ok medium) ↔
      ∃ medium, build (inputs.withPadding layer order) = .ok medium := by
  have again : (inputs.withPadding layer order).grid = none := noGrid
  rw [exists_build_iff_of_no_grid noGrid fit, exists_build_iff_of_no_grid again other]
  exact Iff.rfl

end PoroelasticMedium

/-! ### Both media -/

/-- Inputs without a grid, and the same inputs with other widths of the absorbing layer and of the halo,
can both be built or can both not be built.  The media then show the same of the physical region: every
field has the same representation, the same values there bit for bit, and up to the sign of zero the same
extremes.  Scale and critical step are the same, that of a poroelastic medium unless its fastest wave
stands still. -/
theorem build_withPadding :
    (∀ (inputs : AcousticMedium.Inputs) (layer order : Nat), inputs.grid = none →
      SizesFit (inputs.layout.storageShape inputs.spaceOrder) →
      SizesFit ((inputs.layout.withLayer layer).storageShape order) →
      ((∃ medium, AcousticMedium.build inputs = .ok medium) ↔
        ∃ medium, AcousticMedium.build (inputs.withPadding layer order) = .ok medium) ∧
      ∀ a b, AcousticMedium.build inputs = .ok a →
        AcousticMedium.build (inputs.withPadding layer order) = .ok b → a.SamePhysics b) ∧
    ∀ (inputs : PoroelasticMedium.Inputs) (layer order : Nat), inputs.grid = none →
      SizesFit (inputs.layout.storageShape inputs.spaceOrder) →
      SizesFit ((inputs.layout.withLayer layer).storageShape order) →
      ((∃ medium, PoroelasticMedium.build inputs = .ok medium) ↔
        ∃ medium, PoroelasticMedium.build (inputs.withPadding layer order) = .ok medium) ∧
      ∀ a b, PoroelasticMedium.build inputs = .ok a →
        PoroelasticMedium.build (inputs.withPadding layer order) = .ok b → a.SamePhysics b := by
  constructor
  · intro inputs layer order noGrid fit other
    exact ⟨AcousticMedium.exists_build_withPadding_iff noGrid fit other,
      fun _ _ here there => AcousticMedium.samePhysics_of_build noGrid here there⟩
  · intro inputs layer order noGrid fit other
    exact ⟨PoroelasticMedium.exists_build_withPadding_iff noGrid fit other,
      fun _ _ here there => PoroelasticMedium.samePhysics_of_build noGrid here there⟩

/-- The plane inside a wider layer, and the sandstone without a layer and with a wider halo. -/
theorem build_withPadding_plane_sandstone :
    (∃ a b, AcousticMedium.build AcousticMedium.planeInputs = .ok a ∧
      AcousticMedium.build (AcousticMedium.planeInputs.withPadding 2 1) = .ok b ∧
      a.SamePhysics b) ∧
    ∃ a b, PoroelasticMedium.build PoroelasticMedium.sandstone = .ok a ∧
      PoroelasticMedium.build (PoroelasticMedium.sandstone.withPadding 0 3) = .ok b ∧
      a.SamePhysics b ∧ ¬ IsZero a.derived.compressionalVelocity.largest := by
  constructor
  · obtain ⟨a, here⟩ := AcousticMedium.exists_build_planeInputs
    obtain ⟨together, same⟩ :=
      build_withPadding.1 AcousticMedium.planeInputs 2 1 rfl (by decide) (by decide)
    obtain ⟨b, there⟩ := together.mp ⟨a, here⟩
    exact ⟨a, b, here, there, same a b here there⟩
  · obtain ⟨a, _, here, fastest, _, moves⟩ := PoroelasticMedium.fastest_sandstone
    obtain ⟨together, same⟩ :=
      build_withPadding.2 PoroelasticMedium.sandstone 0 3 rfl (by decide) (by decide)
    obtain ⟨b, there⟩ := together.mp ⟨a, here⟩
    rw [← Field.largest, ← fastest] at moves
    exact ⟨a, b, here, there, same a b here there, moves⟩

end WaveMedium
