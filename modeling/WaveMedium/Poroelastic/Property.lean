/-
Module: WaveMedium.Poroelastic.Property
Purpose: The material properties of a fluid-saturated porous rock.
Main exports:
  RockProperty, DerivedProperty, their symbols and descriptions
-/

namespace WaveMedium

/-- A property of rock or pore fluid that is supplied. -/
inductive RockProperty where
  | solidDensity
  | fluidDensity
  | drainedBulkModulus
  | solidBulkModulus
  | fluidBulkModulus
  | fluidViscosity
  | porosity
  | permeability
  | shearModulus
  | tortuosity
deriving DecidableEq, Repr, Inhabited

/-- The supplied properties in their order. -/
def RockProperty.all : List RockProperty :=
  [.solidDensity, .fluidDensity, .drainedBulkModulus, .solidBulkModulus, .fluidBulkModulus,
   .fluidViscosity, .porosity, .permeability, .shearModulus, .tortuosity]

/-- The symbol of a property, which names its field. -/
def RockProperty.symbol : RockProperty → String
  | .solidDensity => "rho_s"
  | .fluidDensity => "rho_f"
  | .drainedBulkModulus => "K_dr"
  | .solidBulkModulus => "K_s"
  | .fluidBulkModulus => "K_f"
  | .fluidViscosity => "eta"
  | .porosity => "phi"
  | .permeability => "kappa"
  | .shearModulus => "G"
  | .tortuosity => "T"

/-- The property with a symbol. -/
def RockProperty.ofSymbol? (symbol : String) : Option RockProperty :=
  RockProperty.all.find? (·.symbol == symbol)

theorem RockProperty.mem_all (property : RockProperty) : property ∈ RockProperty.all := by
  cases property <;> decide

/-- A property of the saturated rock that follows from the supplied ones. -/
inductive DerivedProperty where
  | biotCoefficient
  | biotModulus
  | undrainedBulkModulus
  | bulkDensity
  | compressionalVelocity
  | shearVelocity
  | undrainedLame
deriving DecidableEq, Repr, Inhabited

/-- The derived properties in their order. -/
def DerivedProperty.all : List DerivedProperty :=
  [.biotCoefficient, .biotModulus, .undrainedBulkModulus, .bulkDensity, .compressionalVelocity,
   .shearVelocity, .undrainedLame]

/-- The symbol of a derived property, which names its field. -/
def DerivedProperty.symbol : DerivedProperty → String
  | .biotCoefficient => "alpha"
  | .biotModulus => "M"
  | .undrainedBulkModulus => "K_u"
  | .bulkDensity => "rho_b"
  | .compressionalVelocity => "vp"
  | .shearVelocity => "vs"
  | .undrainedLame => "lam_u"

/-- A derived property in words. -/
def DerivedProperty.description : DerivedProperty → String
  | .biotCoefficient => "Biot coefficient"
  | .biotModulus => "Biot modulus"
  | .undrainedBulkModulus => "undrained bulk modulus"
  | .bulkDensity => "bulk density"
  | .compressionalVelocity => "compressional velocity"
  | .shearVelocity => "shear velocity"
  | .undrainedLame => "undrained Lame parameter"

/-- The derived property with a symbol. -/
def DerivedProperty.ofSymbol? (symbol : String) : Option DerivedProperty :=
  DerivedProperty.all.find? (·.symbol == symbol)

end WaveMedium
