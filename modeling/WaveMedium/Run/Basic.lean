/-
Module: WaveMedium.Run.Basic
Purpose: A run from its settings to its report and the plane of the plot.
Main exports:
  RunFailure, Ending, Settings.read, Settings.build, Medium.planeOf, Request.perform
-/
import WaveMedium.Files
import WaveMedium.Plot
import WaveMedium.Run.Report
import WaveMedium.Run.Request
import WaveMedium.Settings.Document

namespace WaveMedium

/-! ### How a run ends -/

/-- Why a run ends early. -/
inductive RunFailure where
  | settings (error : SettingsError Float)
  | medium (error : ModelError Float)
  /-- The directory of the plot cannot be made. -/
  | directory (path : String) (reason : FileError)
  /-- The medium does not have the field that is plotted. -/
  | unknownField (name : String)
  /-- The field that is plotted has one value only. -/
  | uniformField (name : String)
  | plot (error : PlotError)
  | fault (fault : Fault)
deriving DecidableEq

/-- The wording of a failure; a fault has none. -/
def RunFailure.message? : RunFailure → Option String
  | .settings error => some error.message
  | .medium error => some error.message
  | .directory path reason => some ("Failed to create '" ++ path ++ "': " ++ reason.message)
  | .unknownField name => some ("Model has no field named '" ++ name ++ "'")
  | .uniformField name => some ("Field '" ++ name ++ "' is uniform, nothing to plot")
  | .plot error => error.message?
  | .fault _ => none

/-- A failure of a computation as the failure of a run. -/
def RunFailure.ofFailure : Failure Float → RunFailure
  | .rejected error => .medium error
  | .fault cause => .fault cause

/-- How a run ends: what it has reported, the plane to draw if it got that far, and what went wrong. -/
structure Ending where
  report : List ReportLine := []
  plane : Option (Tensor Float) := none
  failure : Option RunFailure := none

/-- The status that is left to the caller: zero, one after an error, and one hundred and one after a
fault. -/
def Ending.status (ending : Ending) : Nat :=
  match ending.failure with
  | none => 0
  | some failure => if failure.message?.isSome then 1 else 101

/-- What is told about a failure. -/
def Ending.complaint (ending : Ending) : String :=
  match ending.failure.bind RunFailure.message? with
  | some message => "Error: " ++ message
  | none => ""

/-! ### The stages of a run -/

/-- Valid settings from a file. -/
def Settings.read {m : Type → Type} [Monad m] (files : Files m) (path : String) :
    m (Settings.Reading (Settings Float)) := do
  match ← files.readText path with
  | .ok document => return Settings.ofText document
  | .error reason => return .error (.unreadable path reason.message)

/-- The medium that settings describe. -/
def Settings.build (settings : Settings Float) : Outcome Medium :=
  buildNamed settings.medium.scenario settings.medium.layout (some settings.medium.spaceOrder)

/-- The stored values of a field, or of the absorbing layer. -/
def Medium.storedField (medium : Medium) (name : String) : Except RunFailure StoredField :=
  if name = Absorption.fieldName then .ok medium.absorption
  else match medium.field? name with
    | none => .error (.unknownField name)
    | some field =>
        match field.stored? with
        | none => .error (.uniformField name)
        | some stored => .ok stored

/-- The plane of a field that is plotted, from the whole padded grid. -/
def Medium.planeOf (medium : Medium) (name : String) : Except RunFailure (Tensor Float) := do
  let stored ← medium.storedField name
  match Plot.plane stored.data with
  | .ok plane => return plane
  | .error error => throw (.plot error)

/-- Perform a run.  The directory of a plot is made before the field is looked for. -/
def Request.perform {m : Type → Type} [Monad m] (request : Request) (files : Files m) :
    m Ending := do
  match ← Settings.read files request.settingsPath with
  | .error error => return { failure := some (.settings error) }
  | .ok settings =>
      match settings.build with
      | .error failure => return { failure := some (.ofFailure failure) }
      | .ok medium =>
          let report := medium.report settings.medium
          match request.plot <|> settings.output.plot with
          | none => return { report := report }
          | some name =>
              let directory := settings.output.directory
              match ← files.makeDirectory directory with
              | .error reason =>
                  return { report := report, failure := some (.directory directory reason) }
              | .ok () =>
                  match medium.planeOf name with
                  | .error failure => return { report := report, failure := some failure }
                  | .ok plane => return { report := report, plane := some plane }

end WaveMedium
