/-
Module: WaveMedium.Poroelastic.Medium
Purpose: The poroelastic medium, a rock whose pores are filled by a fluid.
Main exports:
  PoroelasticMedium, PoroelasticMedium.Inputs, PoroelasticMedium.build,
  PoroelasticMedium.criticalStep
-/
import WaveMedium.Geometry
import WaveMedium.Poroelastic.Derivation

namespace WaveMedium

/-- What a poroelastic medium is built from. -/
structure PoroelasticMedium.Inputs where
  layout : Layout Float
  values : RockTable (Option Quantity)
  spaceOrder : Nat
  grid : Option (Grid Float)

/-- A poroelastic medium.  Its absorbing layer is a mask that tapers material values. -/
structure PoroelasticMedium where
  geometry : Geometry Float
  absorption : StoredField
  supplied : RockTable Field
  derived : DerivedTable Field
  spaceOrder : Nat

namespace PoroelasticMedium

/-- The order of the stencils if none is given. -/
def defaultSpaceOrder : Nat := 4

/-- The medium in words, where it asks for a property itself. -/
def description : String := "poroelastic model"

/-! ### Building -/

/-- The supplied quantities, all of which have to be there. -/
def completeInputs (values : RockTable (Option Quantity)) : Outcome (RockTable Quantity) :=
  RockTable.ofFnM fun property =>
    match values.get property with
    | some quantity => .ok quantity
    | none => .error (.rejected (.missing property description))

/-- Round the outputs of a derivation and make them fields, all of which have to be there. -/
def storeDerived (geometry : Geometry Float) (halo : List Margin) (derived : Derived) :
    Outcome (DerivedTable Field) :=
  DerivedTable.ofFnM fun property =>
    match derived.get property with
    | some operand => operand.toField property.symbol geometry.grid halo
    | none => .error (.rejected (.underived property))

/-- Build a medium.  The derived fields are computed from the supplied fields as they are stored, halo
included. -/
def build (inputs : Inputs) : Outcome PoroelasticMedium := do
  let geometry ← Geometry.new inputs.layout inputs.grid
  let order := inputs.spaceOrder
  checkPipeline pipeline fun property => (inputs.values.get property).isSome
  let values ← completeInputs inputs.values
  let supplied ← RockTable.ofFnM fun property =>
    geometry.field property.symbol (values.get property) order
  let operands : Supplied := supplied.map fun field => some field.operand
  let outputs ← runPipeline operands Derived.none pipeline
  let derived ← storeDerived geometry (List.replicate geometry.rank (Margin.even order)) outputs
  let absorption ← geometry.absorption .mask
  return {
    geometry := geometry
    absorption := absorption
    supplied := supplied
    derived := derived
    spaceOrder := order }

/-! ### Reading -/

/-- The fields, the supplied ones first. -/
def fields (medium : PoroelasticMedium) : List Field :=
  medium.supplied.toList ++ medium.derived.toList

/-- The field of a name. -/
def field? (medium : PoroelasticMedium) (name : String) : Option Field :=
  medium.fields.find? (·.name == name)

/-- The longest stable time step of the staggered scheme. -/
def criticalStep (medium : PoroelasticMedium) : Float :=
  0.5 * medium.geometry.leastSpacing /
    (Number.sqrtTwo * medium.derived.compressionalVelocity.largest)

end PoroelasticMedium

end WaveMedium
