/-
Module: WaveMedium.Run.Report
Purpose: The lines in which a run tells what it has built.
Main exports:
  ReportLine, ReportLine.text, Medium.report
-/
import WaveMedium.Settings.Basic

namespace WaveMedium

/-- A line of a report. -/
inductive ReportLine where
  /-- The medium is there, on a padded grid. -/
  | built (scenario : String) (shape padded : List Nat) (domainSize : List Float)
  /-- One of its fields, with its range of values. -/
  | field (name : String) (isUniform : Bool) (least greatest : Float)
  | remark (note : AcousticMedium.Note)
  /-- The longest stable time step. -/
  | stability (step : Float)

/-- A line in words. -/
def ReportLine.text : ReportLine → String
  | .built scenario shape padded domainSize =>
      "INFO model built preset=" ++ scenario ++ " shape=" ++ Message.counts shape ++
        " padded=" ++ Message.counts padded ++ " domain_size=" ++ Message.numbers domainSize
  | .field name isUniform least greatest =>
      "INFO field field=" ++ Message.quoted name ++
        " uniform=" ++ (if isUniform then "true" else "false") ++
        " min=" ++ Message.number least ++ " max=" ++ Message.number greatest
  | .remark note => "WARN " ++ note.message
  | .stability step => "INFO stability bound critical_dt=" ++ Message.number step

/-- The line on a field. -/
def Field.reportLine (field : Field) : ReportLine :=
  .field field.name field.isUniform field.smallest field.largest

/-- The report on a medium: its size, its fields, what was remarked while it was built, and the bound on
the time step. -/
def Medium.report (medium : Medium) (settings : MediumSettings Float) : List ReportLine :=
  let geometry := medium.geometry
  let size := .built settings.scenario settings.shape geometry.grid.shape geometry.domainSize
  size :: medium.fields.map Field.reportLine ++ medium.notes.map .remark ++
    [.stability medium.criticalStep]

end WaveMedium
