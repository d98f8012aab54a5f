/-
Module: WaveMedium.Number.Precision
Purpose: The precision in which the values of a medium are stored.
Main exports:
  Precision, Precision.cast
-/
import WaveMedium.Number.Binary

namespace WaveMedium

open Number

/-- Stored values have single or double precision.  Arithmetic is always in double precision. -/
inductive Precision where
  | single
  | double
deriving DecidableEq, Repr, Inhabited

/-- Round a value to the precision in which it is stored: to the nearest single-precision number,
a half to the even neighbour, or not at all. -/
def Precision.cast : Precision → Float → Float
  | .single, x => (Format.single.round (Binary.ofFloat x)).toFloat
  | .double, x => x

/-- The name under which a precision is written in settings. -/
def Precision.name : Precision → String
  | .single => "float32"
  | .double => "float64"

/-- Read the name of a precision. -/
def Precision.ofName? : String → Option Precision
  | "float32" => some .single
  | "float64" => some .double
  | _ => none

@[simp] theorem Precision.cast_double (x : Float) : Precision.double.cast x = x := rfl

@[simp] theorem Precision.ofName?_name (precision : Precision) :
    Precision.ofName? precision.name = some precision := by
  cases precision <;> rfl

end WaveMedium
