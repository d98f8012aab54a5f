/-
Module: WaveMedium.Poroelastic.Derivation
Purpose: How the derived properties of a saturated rock follow from the supplied ones.
Main exports:
  DerivationStep, DerivationStep.standard, pipeline, checkPipeline, derive, runPipeline
-/
import WaveMedium.Field.Basic
import WaveMedium.Poroelastic.Table

/-!
A derivation is a list of steps.  Each step computes one property from supplied ones and from outputs of
earlier steps.  What a step reads is declared beside it, so that an order can be checked before anything
is computed.
-/

namespace WaveMedium

/-- One step of a derivation and what it reads. -/
structure DerivationStep where
  output : DerivedProperty
  supplied : List RockProperty
  derived : List DerivedProperty
deriving DecidableEq, Repr

/-! ### The steps -/

/-- The step that computes a property. -/
def DerivationStep.standard : DerivedProperty → DerivationStep
  | .biotCoefficient =>
      ⟨.biotCoefficient, [.drainedBulkModulus, .solidBulkModulus], []⟩
  | .biotModulus =>
      ⟨.biotModulus, [.porosity, .solidBulkModulus, .fluidBulkModulus], [.biotCoefficient]⟩
  | .undrainedBulkModulus =>
      ⟨.undrainedBulkModulus, [.drainedBulkModulus], [.biotCoefficient, .biotModulus]⟩
  | .bulkDensity =>
      ⟨.bulkDensity, [.solidDensity, .fluidDensity, .porosity], []⟩
  | .compressionalVelocity =>
      ⟨.compressionalVelocity, [.shearModulus], [.undrainedBulkModulus, .bulkDensity]⟩
  | .shearVelocity =>
      ⟨.shearVelocity, [.shearModulus], [.bulkDensity]⟩
  | .undrainedLame =>
      ⟨.undrainedLame, [.shearModulus], [.undrainedBulkModulus]⟩

/-- The steps in the order in which a medium runs them. -/
def pipeline : List DerivationStep := DerivedProperty.all.map DerivationStep.standard

/-! ### Checking an order -/

/-- What keeps a step from running after the given outputs: its first supplied property that is not
there, or else its first derived property that is not among the outputs. -/
def DerivationStep.obstacle? (step : DerivationStep) (isSupplied : RockProperty → Bool)
    (outputs : List DerivedProperty) : Option (ModelError Float) :=
  match step.supplied.find? fun property => !isSupplied property with
  | some property => some (.missing property step.output.description)
  | none =>
      (step.derived.find? fun property => !outputs.contains property).map
        fun property => .derivedTooEarly step.output property

/-- Check the steps one after the other, each with the outputs of those before it. -/
def checkAfter (isSupplied : RockProperty → Bool) :
    List DerivedProperty → List DerivationStep → Outcome Unit
  | _, [] => .ok ()
  | outputs, step :: steps =>
      match step.obstacle? isSupplied outputs with
      | some error => .error (.rejected error)
      | none => checkAfter isSupplied (outputs ++ [step.output]) steps

/-- Check that every step of a derivation can run. -/
def checkPipeline (steps : List DerivationStep) (isSupplied : RockProperty → Bool) : Outcome Unit :=
  checkAfter isSupplied [] steps

/-! ### Running a step -/

/-- The values that a derivation has so far. -/
abbrev Supplied := RockTable (Option Operand)

/-- The outputs that a derivation has so far. -/
abbrev Derived := DerivedTable (Option Operand)

/-- A supplied property that is read while `output` is computed. -/
def Supplied.read (supplied : Supplied) (output : DerivedProperty) (property : RockProperty) :
    Outcome Operand :=
  match supplied.get property with
  | some operand => .ok operand
  | none => .error (.rejected (.missing property output.description))

/-- A derived property that is read while `output` is computed. -/
def Derived.read (derived : Derived) (output property : DerivedProperty) : Outcome Operand :=
  match derived.get property with
  | some operand => .ok operand
  | none => .error (.rejected (.derivedTooEarly output property))

/-- Compute one property.  The formulas are those of Biot's theory for a rock saturated by one fluid. -/
def derive (supplied : Supplied) (derived : Derived) (output : DerivedProperty) :
    Outcome Operand := do
  let rock := supplied.read output
  let earlier := derived.read output
  match output with
  | .biotCoefficient =>
      (← rock .drainedBulkModulus).zipWith (fun drained solid => 1.0 - drained / solid)
        (← rock .solidBulkModulus)
  | .biotModulus =>
      let excess ← (← earlier .biotCoefficient).zipWith (· - ·) (← rock .porosity)
      let solid ← excess.zipWith (· / ·) (← rock .solidBulkModulus)
      let fluid ← (← rock .porosity).zipWith (· / ·) (← rock .fluidBulkModulus)
      solid.zipWith (· + ·) fluid
  | .undrainedBulkModulus =>
      let coupling ← (← earlier .biotCoefficient).zipWith
        (fun coefficient modulus => coefficient * coefficient * modulus) (← earlier .biotModulus)
      (← rock .drainedBulkModulus).zipWith (· + ·) coupling
  | .bulkDensity =>
      let solid ← (← rock .solidDensity).zipWith
        (fun density porosity => density * (1.0 - porosity)) (← rock .porosity)
      let fluid ← (← rock .fluidDensity).zipWith (· * ·) (← rock .porosity)
      solid.zipWith (· + ·) fluid
  | .compressionalVelocity =>
      let stiffness ← (← earlier .undrainedBulkModulus).zipWith
        (fun bulk shear => bulk + 4.0 * shear / 3.0) (← rock .shearModulus)
      stiffness.zipWith (fun stiffness density => (stiffness / density).sqrt)
        (← earlier .bulkDensity)
  | .shearVelocity =>
      (← rock .shearModulus).zipWith (fun shear density => (shear / density).sqrt)
        (← earlier .bulkDensity)
  | .undrainedLame =>
      (← earlier .undrainedBulkModulus).zipWith (fun bulk shear => bulk - 2.0 * shear / 3.0)
        (← rock .shearModulus)

/-- Run the steps one after the other. -/
def runPipeline (supplied : Supplied) : Derived → List DerivationStep → Outcome Derived
  | derived, [] => .ok derived
  | derived, step :: steps => do
      let operand ← derive supplied derived step.output
      runPipeline supplied (derived.set step.output (some operand)) steps

/-- No outputs. -/
def Derived.none : Derived := DerivedTable.ofFn fun _ => Option.none

end WaveMedium
