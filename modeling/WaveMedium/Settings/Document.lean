/-
Module: WaveMedium.Settings.Document
Purpose: Settings written as a TOML document.
Main exports:
  MediumSettings.ofValue, OutputSettings.ofValue, Settings.ofEntries, Settings.ofText
-/
import WaveMedium.Settings.Basic
import WaveMedium.Toml.Parse

/-!
Keys that are not asked for are passed over.  The values of all keys that are there are read before a key
is found missing.  A record may also be written as an array of its values in the order of its keys.
-/

namespace WaveMedium

open Toml (Value)

/-! ### Values -/

namespace Settings

/-- A value that is a text. -/
def text? : Value → Option String
  | .text text => some text
  | _ => none

/-- A value that is a whole number of zero or more. -/
def count? : Value → Option Nat
  | .integer n => if 0 ≤ n then some n.toNat else none
  | _ => none

/-- A value that is a count below two to the thirty-second. -/
def pixels? (value : Value) : Option Nat := do
  let n ← count? value
  if n < Nat.pow 2 32 then some n else none

/-- A value that is a number. -/
def number? : Value → Option Float
  | .float x => some x
  | .integer n => some (Float.ofInt n)
  | _ => none

/-- A value that is a list. -/
def list? {β : Type} (item? : Value → Option β) : Value → Option (List β)
  | .array items => items.mapM item?
  | _ => none

/-- A table or an array with nothing in it. -/
def isEmpty : Value → Bool
  | .array items => items.isEmpty
  | .table entries => entries.isEmpty
  | _ => false

/-- A value that is a precision: its name, or a table with the name as its only key and nothing in it. -/
def precision? : Value → Option Precision
  | .text name => Precision.ofName? name
  | .table [(name, value)] => if isEmpty value then Precision.ofName? name else none
  | _ => none

/-! ### Records -/

/-- The result of reading a part of the settings. -/
abbrev Reading (β : Type) := Except (SettingsError Float) β

/-- The value of a key, if the key is there. -/
def entry? {β : Type} (entries : List (String × Value)) (key : String)
    (read? : Value → Option β) : Reading (Option β) :=
  match entries.lookup key with
  | none => .ok none
  | some value =>
      match read? value with
      | some result => .ok (some result)
      | none => .error .malformed

/-- What has no default has to be there. -/
def require {β : Type} (key : String) : Option β → Reading β
  | some value => .ok value
  | none => .error (.missingKey key)

/-- Read a record from a table or from an array of its values.  An array that ends too early is not told
from other malformed values.  A date is like a table without any of the keys. -/
def record {β : Type} (keys : List String) (read : List (String × Value) → Reading β) :
    Value → Reading β
  | .table entries => read entries
  | .array items =>
      match read (keys.zip items) with
      | .ok result => .ok result
      | .error _ => .error .malformed
  | .moment => read []
  | _ => .error .malformed

end Settings

open Settings

/-! ### Parts -/

/-- The keys of a medium's settings. -/
def MediumSettings.keys : List String :=
  ["preset", "shape", "spacing", "origin", "nbpml", "space_order", "dtype"]

/-- The settings of a medium from the entries of a table. -/
def MediumSettings.ofEntries (entries : List (String × Value)) :
    Reading (MediumSettings Float) := do
  let scenario ← entry? entries "preset" text?
  let shape ← entry? entries "shape" (list? count?)
  let spacing ← entry? entries "spacing" (list? number?)
  let origin ← entry? entries "origin" (list? number?)
  let layer ← entry? entries "nbpml" count?
  let spaceOrder ← entry? entries "space_order" count?
  let precision ← entry? entries "dtype" precision?
  return {
    scenario := ← require "preset" scenario
    shape := ← require "shape" shape
    spacing := ← require "spacing" spacing
    origin := origin
    layer := layer.getD defaultLayer
    spaceOrder := spaceOrder.getD defaultSpaceOrder
    precision := precision.getD .single }

/-- The settings of a medium from a value. -/
def MediumSettings.ofValue : Value → Reading (MediumSettings Float) :=
  record MediumSettings.keys MediumSettings.ofEntries

/-- The keys of a plot's settings. -/
def OutputSettings.keys : List String := ["plot", "directory", "image_width", "image_height"]

/-- The settings of a plot from the entries of a table. -/
def OutputSettings.ofEntries (entries : List (String × Value)) : Reading OutputSettings := do
  let defaults : OutputSettings := {}
  let plot ← entry? entries "plot" text?
  let directory ← entry? entries "directory" text?
  let imageWidth ← entry? entries "image_width" pixels?
  let imageHeight ← entry? entries "image_height" pixels?
  return {
    plot := plot
    directory := directory.getD defaults.directory
    imageWidth := imageWidth.getD defaults.imageWidth
    imageHeight := imageHeight.getD defaults.imageHeight }

/-- The settings of a plot from a value. -/
def OutputSettings.ofValue : Value → Reading OutputSettings :=
  record OutputSettings.keys OutputSettings.ofEntries

/-! ### The whole document -/

namespace Settings

/-- The parts of the settings that have been read. -/
structure Parts where
  medium : Option (MediumSettings Float)
  output : Option OutputSettings

/-- Read one entry of the document. -/
def Parts.read (parts : Parts) (entry : String × Value) : Reading Parts :=
  match entry.1 with
  | "model" => do return { parts with medium := some (← MediumSettings.ofValue entry.2) }
  | "output" => do return { parts with output := some (← OutputSettings.ofValue entry.2) }
  | _ => .ok parts

/-- The settings from the entries of a document.  They are read in their order, so of two defects the
first is told. -/
def ofEntries (entries : List (String × Value)) : Reading (Settings Float) := do
  let parts ← entries.foldlM Parts.read ⟨none, none⟩
  return { medium := ← require "model" parts.medium, output := parts.output.getD {} }

/-- Valid settings from a document. -/
def ofText (document : String) : Reading (Settings Float) := do
  match Toml.parse? document with
  | none => throw .malformed
  | some entries =>
      let settings ← ofEntries entries
      settings.validate
      return settings

end Settings

end WaveMedium
