/-
Module: WaveMedium.Acoustic
Purpose: The acoustic medium, isotropic or with a tilted axis of symmetry.
Main exports:
  AcousticMedium, AcousticMedium.Inputs, AcousticMedium.build, AcousticMedium.assignVelocity,
  AcousticMedium.criticalStep, AcousticMedium.Note
-/
import WaveMedium.Geometry
import WaveMedium.TimeStep

/-!
The medium is described by the velocity of sound and, if it is anisotropic, by two Thomsen parameters and
the tilt and azimuth of its axis of symmetry.  What is stored is what the stencils read: the squared
slowness, and the anisotropy as factors.
-/

namespace WaveMedium

/-- A remark on a medium that was built. -/
inductive AcousticMedium.Note where
  /-- An azimuth was supplied that a medium of this rank does not have. -/
  | azimuthIgnored (rank : Nat)
deriving DecidableEq, Repr

/-- The wording of a remark. -/
def AcousticMedium.Note.message : AcousticMedium.Note → String
  | .azimuthIgnored rank => s!"{rank}D TTI does not use an azimuth angle phi, ignoring input"

/-- What an acoustic medium is built from. -/
structure AcousticMedium.Inputs where
  layout : Layout Float
  velocity : Quantity
  epsilon : Option Quantity
  delta : Option Quantity
  tilt : Option Quantity
  azimuth : Option Quantity
  spaceOrder : Nat
  grid : Option (Grid Float)

/-- An acoustic medium. -/
structure AcousticMedium where
  geometry : Geometry Float
  absorption : StoredField
  velocity : Quantity
  squaredSlowness : Field
  epsilon : Field
  delta : Field
  tilt : Field
  azimuth : Field
  /-- The factor by which anisotropy raises the fastest velocity. -/
  scale : Float
  spaceOrder : Nat
  notes : List AcousticMedium.Note

namespace AcousticMedium

/-! ### What is stored -/

/-- The order of the stencils if none is given. -/
def defaultSpaceOrder : Nat := 8

/-- Squared slowness at a velocity. -/
def slownessSquared (velocity : Float) : Float := 1.0 / (velocity * velocity)

/-- The factor stored for Thomsen's epsilon. -/
def epsilonFactor (epsilon : Float) : Float := 1.0 + 2.0 * epsilon

/-- The factor stored for Thomsen's delta. -/
def deltaFactor (delta : Float) : Float := (1.0 + 2.0 * delta).sqrt

/-- The names of the fields. -/
def slownessName : String := "m"
def epsilonName : String := "epsilon"
def deltaName : String := "delta"
def tiltName : String := "theta"
def azimuthName : String := "phi"

/-- A velocity is positive and finite. -/
def isVelocity (v : Float) : Bool := decide (0.0 < v) && v.isFinite

/-- Reject velocities that are not positive and finite. -/
def checkVelocity (velocity : Quantity) : Outcome Unit :=
  if velocity.allValues isVelocity then .ok () else .error (.rejected .velocity)

/-! ### Building -/

/-- The azimuth that a medium of the given rank uses, and the remark that it is not used. -/
def Inputs.usedAzimuth (inputs : Inputs) (rank : Nat) : Option Quantity × List Note :=
  match inputs.azimuth with
  | none => (none, [])
  | some azimuth => if rank = 3 then (some azimuth, []) else (none, [.azimuthIgnored rank])

/-- The field of a quantity that may be absent, and then has a uniform value. -/
def optionalField (geometry : Geometry Float) (name : String) (quantity : Option Quantity)
    (absent : Float) (order : Nat) : Outcome Field :=
  match quantity with
  | some quantity => geometry.field name quantity order
  | none => .ok (geometry.uniformField name absent)

/-- The scale of a medium: the root of the largest stored epsilon factor, if there is one per cell and the
largest is positive. -/
def scaleOf : Field → Float
  | .varying epsilon =>
      let largest := epsilon.largest
      if 0.0 < largest then largest.sqrt else 1.0
  | .uniform _ => 1.0

/-- Build a medium. -/
def build (inputs : Inputs) : Outcome AcousticMedium := do
  let geometry ← Geometry.new inputs.layout inputs.grid
  let order := inputs.spaceOrder
  checkVelocity inputs.velocity
  let slowness ← geometry.field slownessName (inputs.velocity.map slownessSquared) order
  let absorption ← geometry.absorption .damping
  let epsilon ← optionalField geometry epsilonName (inputs.epsilon.map (·.map epsilonFactor)) 1.0 order
  let delta ← optionalField geometry deltaName (inputs.delta.map (·.map deltaFactor)) 1.0 order
  let tilt ← optionalField geometry tiltName inputs.tilt 0.0 order
  let (usedAzimuth, notes) := inputs.usedAzimuth geometry.rank
  let azimuth ← optionalField geometry azimuthName usedAzimuth 0.0 order
  return {
    geometry := geometry
    absorption := absorption
    velocity := inputs.velocity
    squaredSlowness := slowness
    epsilon := epsilon
    delta := delta
    tilt := tilt
    azimuth := azimuth
    scale := scaleOf epsilon
    spaceOrder := order
    notes := notes }

/-! ### Reading -/

/-- The fields in their order. -/
def fields (medium : AcousticMedium) : List Field :=
  [medium.squaredSlowness, medium.epsilon, medium.delta, medium.tilt, medium.azimuth]

/-- The field of a name. -/
def field? (medium : AcousticMedium) (name : String) : Option Field :=
  medium.fields.find? (·.name == name)

/-- The share of the cell size that a wave may cross in one step. -/
def courantNumber (rank : Nat) : Float := if rank = 3 then 0.38 else 0.42

/-- The longest stable time step before it is truncated. -/
def stableStep (medium : AcousticMedium) : Float :=
  courantNumber medium.geometry.rank * medium.geometry.leastSpacing /
    (medium.scale * medium.velocity.largest)

/-- The longest stable time step in whole thousandths. -/
def criticalStep (medium : AcousticMedium) : Float := TimeStep.truncate medium.stableStep

/-! ### Changing the velocity -/

/-- Write the squared slowness for another velocity, which has to have one value or one per point as the
one before it had. -/
def assignSlowness (velocity : Quantity) : Change AcousticMedium Unit := do
  let medium ← get
  match medium.squaredSlowness, velocity with
  | .uniform field, .uniform value =>
      set { medium with squaredSlowness := .uniform (field.set (slownessSquared value)) }
  | .varying field, .varying values =>
      let (answer, written) := (medium.geometry.extend (values.map slownessSquared)).perform field
      set { medium with squaredSlowness := .varying written }
      answer
  | field, velocity =>
      throw (.rejected (.representation field.name field.representation velocity.representation))

/-- Give the medium another velocity in place. -/
def assignVelocity (velocity : Quantity) : Change AcousticMedium Unit := do
  checkVelocity velocity
  assignSlowness velocity
  modify fun medium => { medium with velocity := velocity }

/-- A medium that was given another velocity. -/
def setVelocity (medium : AcousticMedium) (velocity : Quantity) : Outcome AcousticMedium :=
  (assignVelocity velocity).result medium

end AcousticMedium

end WaveMedium
