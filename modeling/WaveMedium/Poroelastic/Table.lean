/-
Module: WaveMedium.Poroelastic.Table
Purpose: One entry for each property of a saturated rock.
Main exports:
  RockTable, DerivedTable, with get, ofFn, ofFnM, set
-/
import WaveMedium.Poroelastic.Property

namespace WaveMedium

/-! ### Supplied properties -/

/-- One entry for each supplied property. -/
structure RockTable (α : Type) where
  solidDensity : α
  fluidDensity : α
  drainedBulkModulus : α
  solidBulkModulus : α
  fluidBulkModulus : α
  fluidViscosity : α
  porosity : α
  permeability : α
  shearModulus : α
  tortuosity : α

namespace RockTable

variable {α β : Type}

/-- The entry of a property. -/
def get (table : RockTable α) : RockProperty → α
  | .solidDensity => table.solidDensity
  | .fluidDensity => table.fluidDensity
  | .drainedBulkModulus => table.drainedBulkModulus
  | .solidBulkModulus => table.solidBulkModulus
  | .fluidBulkModulus => table.fluidBulkModulus
  | .fluidViscosity => table.fluidViscosity
  | .porosity => table.porosity
  | .permeability => table.permeability
  | .shearModulus => table.shearModulus
  | .tortuosity => table.tortuosity

/-- The table whose entry of each property is the value of a function there. -/
def ofFn (entry : RockProperty → α) : RockTable α where
  solidDensity := entry .solidDensity
  fluidDensity := entry .fluidDensity
  drainedBulkModulus := entry .drainedBulkModulus
  solidBulkModulus := entry .solidBulkModulus
  fluidBulkModulus := entry .fluidBulkModulus
  fluidViscosity := entry .fluidViscosity
  porosity := entry .porosity
  permeability := entry .permeability
  shearModulus := entry .shearModulus
  tortuosity := entry .tortuosity

/-- The table whose entries are computed one after the other in their order. -/
def ofFnM {m : Type → Type} [Monad m] (entry : RockProperty → m α) : m (RockTable α) := do
  let solidDensity ← entry .solidDensity
  let fluidDensity ← entry .fluidDensity
  let drainedBulkModulus ← entry .drainedBulkModulus
  let solidBulkModulus ← entry .solidBulkModulus
  let fluidBulkModulus ← entry .fluidBulkModulus
  let fluidViscosity ← entry .fluidViscosity
  let porosity ← entry .porosity
  let permeability ← entry .permeability
  let shearModulus ← entry .shearModulus
  let tortuosity ← entry .tortuosity
  return {
    solidDensity := solidDensity
    fluidDensity := fluidDensity
    drainedBulkModulus := drainedBulkModulus
    solidBulkModulus := solidBulkModulus
    fluidBulkModulus := fluidBulkModulus
    fluidViscosity := fluidViscosity
    porosity := porosity
    permeability := permeability
    shearModulus := shearModulus
    tortuosity := tortuosity }

/-- Apply a function to every entry. -/
def map (f : α → β) (table : RockTable α) : RockTable β := ofFn fun property => f (table.get property)

/-- Change the entry of one property. -/
def set (table : RockTable α) (property : RockProperty) (value : α) : RockTable α :=
  match property with
  | .solidDensity => { table with solidDensity := value }
  | .fluidDensity => { table with fluidDensity := value }
  | .drainedBulkModulus => { table with drainedBulkModulus := value }
  | .solidBulkModulus => { table with solidBulkModulus := value }
  | .fluidBulkModulus => { table with fluidBulkModulus := value }
  | .fluidViscosity => { table with fluidViscosity := value }
  | .porosity => { table with porosity := value }
  | .permeability => { table with permeability := value }
  | .shearModulus => { table with shearModulus := value }
  | .tortuosity => { table with tortuosity := value }

/-- The entries in their order. -/
def toList (table : RockTable α) : List α := RockProperty.all.map table.get

@[simp] theorem get_ofFn (entry : RockProperty → α) (property : RockProperty) :
    (ofFn entry).get property = entry property := by
  cases property <;> rfl

@[simp] theorem get_map (f : α → β) (table : RockTable α) (property : RockProperty) :
    (table.map f).get property = f (table.get property) :=
  get_ofFn _ property

end RockTable

/-! ### Derived properties -/

/-- One entry for each derived property. -/
structure DerivedTable (α : Type) where
  biotCoefficient : α
  biotModulus : α
  undrainedBulkModulus : α
  bulkDensity : α
  compressionalVelocity : α
  shearVelocity : α
  undrainedLame : α

namespace DerivedTable

variable {α β : Type}

/-- The entry of a property. -/
def get (table : DerivedTable α) : DerivedProperty → α
  | .biotCoefficient => table.biotCoefficient
  | .biotModulus => table.biotModulus
  | .undrainedBulkModulus => table.undrainedBulkModulus
  | .bulkDensity => table.bulkDensity
  | .compressionalVelocity => table.compressionalVelocity
  | .shearVelocity => table.shearVelocity
  | .undrainedLame => table.undrainedLame

/-- The table whose entry of each property is the value of a function there. -/
def ofFn (entry : DerivedProperty → α) : DerivedTable α where
  biotCoefficient := entry .biotCoefficient
  biotModulus := entry .biotModulus
  undrainedBulkModulus := entry .undrainedBulkModulus
  bulkDensity := entry .bulkDensity
  compressionalVelocity := entry .compressionalVelocity
  shearVelocity := entry .shearVelocity
  undrainedLame := entry .undrainedLame

/-- The table whose entries are computed one after the other in their order. -/
def ofFnM {m : Type → Type} [Monad m] (entry : DerivedProperty → m α) : m (DerivedTable α) := do
  let biotCoefficient ← entry .biotCoefficient
  let biotModulus ← entry .biotModulus
  let undrainedBulkModulus ← entry .undrainedBulkModulus
  let bulkDensity ← entry .bulkDensity
  let compressionalVelocity ← entry .compressionalVelocity
  let shearVelocity ← entry .shearVelocity
  let undrainedLame ← entry .undrainedLame
  return {
    biotCoefficient := biotCoefficient
    biotModulus := biotModulus
    undrainedBulkModulus := undrainedBulkModulus
    bulkDensity := bulkDensity
    compressionalVelocity := compressionalVelocity
    shearVelocity := shearVelocity
    undrainedLame := undrainedLame }

/-- Change the entry of one property. -/
def set (table : DerivedTable α) (property : DerivedProperty) (value : α) : DerivedTable α :=
  match property with
  | .biotCoefficient => { table with biotCoefficient := value }
  | .biotModulus => { table with biotModulus := value }
  | .undrainedBulkModulus => { table with undrainedBulkModulus := value }
  | .bulkDensity => { table with bulkDensity := value }
  | .compressionalVelocity => { table with compressionalVelocity := value }
  | .shearVelocity => { table with shearVelocity := value }
  | .undrainedLame => { table with undrainedLame := value }

/-- The entries in their order. -/
def toList (table : DerivedTable α) : List α := DerivedProperty.all.map table.get

@[simp] theorem get_ofFn (entry : DerivedProperty → α) (property : DerivedProperty) :
    (ofFn entry).get property = entry property := by
  cases property <;> rfl

@[simp] theorem get_set_self (table : DerivedTable α) (property : DerivedProperty) (value : α) :
    (table.set property value).get property = value := by
  cases property <;> rfl

theorem get_set_of_ne (table : DerivedTable α) {property other : DerivedProperty} (value : α)
    (apart : other ≠ property) :
    (table.set property value).get other = table.get other := by
  cases property <;> cases other <;> simp_all [set, get]

end DerivedTable

end WaveMedium
