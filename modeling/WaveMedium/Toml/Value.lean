/-
Module: WaveMedium.Toml.Value
Purpose: Values of a TOML document.
Main exports:
  Toml.Value
-/

namespace WaveMedium.Toml

/-- A value of a TOML document.  Tables keep their keys in the order in which they were completed.  Of
dates and times only their presence is kept. -/
inductive Value where
  | text (text : String)
  | integer (n : Int)
  | float (x : Float)
  | boolean (b : Bool)
  | moment
  | array (items : List Value)
  | table (entries : List (String × Value))
deriving Inhabited

end WaveMedium.Toml
