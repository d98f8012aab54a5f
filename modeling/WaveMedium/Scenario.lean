/-
Module: WaveMedium.Scenario
Purpose: Media for demonstrations, each under a name.
Main exports:
  layered, Scenario, Scenario.ofName?, Medium, Scenario.build, buildNamed
-/
import WaveMedium.Acoustic
import WaveMedium.Poroelastic.Medium

namespace WaveMedium

/-! ### Layers -/

/-- The layer that point `k` of an axis of `depth` points lies in when the axis is divided into `count`
equal layers. -/
def layerOf (depth count k : Nat) : Nat := min (k * count / depth) (count - 1)

/-- A box whose last axis, the depth, is divided into equal layers with one value each.  The box has to
be storable, and a box without axes has no depth. -/
def layered (shape : List Nat) (values : List Float) : Outcome (Tensor Float) := do
  checkStorable shape
  match shape.getLast? with
  | none => throw (.fault .sizeUnderflow)
  | some length =>
      let depth := max length 1
      let count := max values.length 1
      return Tensor.ofFn shape fun index =>
        values.getD (layerOf depth count (index.getLastD 0)) 0.0

/-! ### Media of both kinds -/

/-- A medium of either kind. -/
inductive Medium where
  | acoustic (medium : AcousticMedium)
  | poroelastic (medium : PoroelasticMedium)

namespace Medium

/-- The padded grid and the physical region. -/
def geometry : Medium → Geometry Float
  | .acoustic medium => medium.geometry
  | .poroelastic medium => medium.geometry

/-- The absorbing layer. -/
def absorption : Medium → StoredField
  | .acoustic medium => medium.absorption
  | .poroelastic medium => medium.absorption

/-- The fields in their order. -/
def fields : Medium → List Field
  | .acoustic medium => medium.fields
  | .poroelastic medium => medium.fields

/-- The field of a name. -/
def field? : Medium → String → Option Field
  | .acoustic medium => medium.field?
  | .poroelastic medium => medium.field?

/-- The longest stable time step. -/
def criticalStep : Medium → Float
  | .acoustic medium => medium.criticalStep
  | .poroelastic medium => medium.criticalStep

/-- Remarks made while the medium was built. -/
def notes : Medium → List AcousticMedium.Note
  | .acoustic medium => medium.notes
  | .poroelastic _ => []

end Medium

/-! ### Scenarios -/

/-- A medium for demonstrations. -/
inductive Scenario where
  | constantIsotropic
  | layersIsotropic
  | layersTilted
  | layersTiltedNoAzimuth
  | constantPoroelastic
  | layersPoroelastic
deriving DecidableEq, Repr

namespace Scenario

/-- All scenarios in their order. -/
def all : List Scenario :=
  [.constantIsotropic, .layersIsotropic, .layersTilted, .layersTiltedNoAzimuth,
   .constantPoroelastic, .layersPoroelastic]

/-- The name of a scenario. -/
def name : Scenario → String
  | .constantIsotropic => "constant-isotropic"
  | .layersIsotropic => "layers-isotropic"
  | .layersTilted => "layers-tti"
  | .layersTiltedNoAzimuth => "layers-tti-noazimuth"
  | .constantPoroelastic => "constant-poroelastic"
  | .layersPoroelastic => "layers-poroelastic"

/-- The scenario of a name. -/
def ofName? (name : String) : Option Scenario := all.find? (·.name == name)

/-! ### Their values -/

/-- The velocity of the uniform scenario. -/
def uniformVelocity : Float := 1.5

/-- The velocities of the two layers of the isotropic scenario. -/
def isotropicVelocities : List Float := [1.5, 3.5]

/-- The velocities of the two layers of the tilted scenarios. -/
def tiltedVelocities : List Float := [1.5, 2.5]

/-- Anisotropy grows with the velocity's excess over that of the upper layer. -/
def anisotropy (factor velocity : Float) : Float := factor * (velocity - 1.5)

/-- The values of the porous scenarios: a sandstone that is saturated with brine, over a tighter and
stiffer layer.  Densities in grams per cubic centimetre and moduli in gigapascals give velocities in
kilometres per second. -/
def porousValues : RockProperty → Float × Float
  | .solidDensity => (2.65, 2.71)
  | .fluidDensity => (1.04, 1.04)
  | .drainedBulkModulus => (9.6, 20.0)
  | .solidBulkModulus => (36.0, 70.0)
  | .fluidBulkModulus => (2.25, 2.25)
  | .fluidViscosity => (1.0e-3, 1.0e-3)
  | .porosity => (0.2, 0.1)
  | .permeability => (6.0e-13, 1.0e-14)
  | .shearModulus => (8.5, 15.0)
  | .tortuosity => (2.0, 3.0)

/-! ### Building -/

/-- An acoustic medium without anisotropy. -/
def isotropicInputs (layout : Layout Float) (velocity : Quantity) (order : Option Nat) :
    AcousticMedium.Inputs where
  layout := layout
  velocity := velocity
  epsilon := none
  delta := none
  tilt := none
  azimuth := none
  spaceOrder := order.getD AcousticMedium.defaultSpaceOrder
  grid := none

/-- An acoustic medium whose anisotropy follows the velocity.  Only a medium with three axes has an
azimuth. -/
def tiltedInputs (layout : Layout Float) (velocity : Quantity) (withAzimuth : Bool)
    (order : Option Nat) : AcousticMedium.Inputs :=
  { isotropicInputs layout velocity order with
    epsilon := some (velocity.map (anisotropy 0.3))
    delta := some (velocity.map (anisotropy 0.2))
    tilt := some (velocity.map (anisotropy 0.5))
    azimuth :=
      if withAzimuth && layout.shape.length == 3 then some (velocity.map (anisotropy 0.35))
      else none }

/-- A poroelastic medium with the given values. -/
def porousInputs (layout : Layout Float) (values : RockTable Quantity) (order : Option Nat) :
    PoroelasticMedium.Inputs where
  layout := layout
  values := values.map some
  spaceOrder := order.getD PoroelasticMedium.defaultSpaceOrder
  grid := none

/-- Build the medium of a scenario. -/
def build (scenario : Scenario) (layout : Layout Float) (order : Option Nat) : Outcome Medium :=
  let acoustic (inputs : AcousticMedium.Inputs) : Outcome Medium :=
    .acoustic <$> AcousticMedium.build inputs
  let porous (values : RockTable Quantity) : Outcome Medium :=
    .poroelastic <$> PoroelasticMedium.build (porousInputs layout values order)
  let layers (values : List Float) : Outcome Quantity :=
    .varying <$> layered layout.shape values
  match scenario with
  | .constantIsotropic => acoustic (isotropicInputs layout (.uniform uniformVelocity) order)
  | .layersIsotropic => do
      acoustic (isotropicInputs layout (← layers isotropicVelocities) order)
  | .layersTilted => do
      acoustic (tiltedInputs layout (← layers tiltedVelocities) true order)
  | .layersTiltedNoAzimuth => do
      acoustic (tiltedInputs layout (← layers tiltedVelocities) false order)
  | .constantPoroelastic =>
      porous (RockTable.ofFn fun property => .uniform (porousValues property).1)
  | .layersPoroelastic => do
      porous (← RockTable.ofFnM fun property =>
        layers [(porousValues property).1, (porousValues property).2])

end Scenario

/-- Build the medium of the scenario with a name. -/
def buildNamed (name : String) (layout : Layout Float) (order : Option Nat) : Outcome Medium :=
  match Scenario.ofName? name with
  | some scenario => scenario.build layout order
  | none => .error (.rejected (.unknownScenario name))

end WaveMedium
