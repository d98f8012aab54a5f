/-
Module: WaveMedium.Settings.Basic
Purpose: What a run is told to build and to plot, and when that makes sense.
Main exports:
  MediumSettings, OutputSettings, Settings, SettingsError, Settings.validate, MediumSettings.layout
-/
import WaveMedium.Layout
import WaveMedium.Scenario

namespace WaveMedium

/-! ### Settings -/

/-- The medium that is built. -/
structure MediumSettings (α : Type) where
  /-- The name of the scenario. -/
  scenario : String
  shape : List Nat
  spacing : List α
  /-- The position of the first point. -/
  origin : Option (List α)
  /-- The width of the absorbing layer. -/
  layer : Nat
  spaceOrder : Nat
  precision : Precision
deriving DecidableEq, Repr

/-- The order of the stencils if the settings do not give one. -/
def MediumSettings.defaultSpaceOrder : Nat := 4

/-- The plot that is made, and where it goes. -/
structure OutputSettings where
  /-- The field that is plotted. -/
  plot : Option String := none
  directory : String := "output"
  imageWidth : Nat := 1200
  imageHeight : Nat := 1000
deriving DecidableEq, Repr

/-- The settings of a run. -/
structure Settings (α : Type) where
  medium : MediumSettings α
  output : OutputSettings
deriving DecidableEq, Repr

/-! ### What can be wrong -/

/-- Why there are no valid settings. -/
inductive SettingsError (α : Type) where
  /-- The file cannot be read, for a reason in words. -/
  | unreadable (path reason : String)
  /-- The document is not well formed, or a value is of the wrong kind. -/
  | malformed
  /-- A key is missing that has no default. -/
  | missingKey (key : String)
  | unknownScenario (name : String)
  | rank (axes : Nat)
  | spacingCount (spacings axes : Nat)
  | originCount (positions axes : Nat)
  | emptyAxis (shape : List Nat)
  | spacing (spacing : List α)
  | emptyImage (width height : Nat)
deriving DecidableEq, Repr

/-- The wording of an error in settings. -/
def SettingsError.message : SettingsError Float → String
  | .unreadable path reason => "Failed to read config file '" ++ path ++ "': " ++ reason
  | .malformed => "Failed to parse TOML config"
  | .missingKey _ => "Failed to parse TOML config"
  | .unknownScenario name =>
      "Invalid preset '" ++ name ++ "'. Must be one of: " ++
        Message.bracketed (Scenario.all.map fun scenario => Message.quoted scenario.name)
  | .rank axes => s!"shape must have 1 to 3 entries, got {axes}"
  | .spacingCount spacings axes => s!"spacing has {spacings} entries but shape has {axes}"
  | .originCount positions axes => s!"origin has {positions} entries but shape has {axes}"
  | .emptyAxis shape => "Grid dimensions must be positive, got " ++ Message.counts shape
  | .spacing steps => "Grid spacing must be positive, got " ++ Message.numbers steps
  | .emptyImage width height =>
      s!"Image dimensions must be positive (width={width}, height={height})"

/-- What is told about a document beyond the message. -/
def SettingsError.detail? {α : Type} : SettingsError α → Option String
  | .missingKey key => some ("missing field `" ++ key ++ "`")
  | _ => none

/-! ### Validation -/

/-- What is wrong with the settings of a medium: a scenario that does not exist, a rank other than one,
two or three, lists of other lengths, an axis without points, or a distance that is zero or less. -/
def MediumSettings.defect? {α : Type} [Scalar α] (settings : MediumSettings α) :
    Option (SettingsError α) :=
  let axes := settings.shape.length
  if Scenario.ofName? settings.scenario = none then some (.unknownScenario settings.scenario)
  else if axes = 0 ∨ 3 < axes then some (.rank axes)
  else if settings.spacing.length ≠ axes then some (.spacingCount settings.spacing.length axes)
  else if settings.origin.any (·.length ≠ axes) then
    some (.originCount ((settings.origin.getD []).length) axes)
  else if 0 ∈ settings.shape then some (.emptyAxis settings.shape)
  else if settings.spacing.any (Scalar.atMost · (Scalar.ofNat 0)) then
    some (.spacing settings.spacing)
  else none

/-- What is wrong with the settings of a plot: an image without points. -/
def OutputSettings.defect? {α : Type} (settings : OutputSettings) : Option (SettingsError α) :=
  if settings.imageWidth = 0 ∨ settings.imageHeight = 0 then
    some (.emptyImage settings.imageWidth settings.imageHeight)
  else none

/-- What is wrong with settings; of several defects the first. -/
def Settings.defect? {α : Type} [Scalar α] (settings : Settings α) : Option (SettingsError α) :=
  settings.medium.defect? <|> settings.output.defect?

/-- Reject settings that make no sense. -/
def Settings.validate {α : Type} [Scalar α] (settings : Settings α) :
    Except (SettingsError α) Unit :=
  match settings.defect? with
  | some defect => .error defect
  | none => .ok ()

/-! ### The layout -/

/-- The physical grid.  If no origin is given, it starts at zero on every axis. -/
def MediumSettings.layout {α : Type} [Scalar α] (settings : MediumSettings α) : Layout α where
  origin := settings.origin.getD (settings.shape.map fun _ => Scalar.ofNat 0)
  spacing := settings.spacing
  shape := settings.shape
  layer := settings.layer
  precision := settings.precision

end WaveMedium
