/-
Module: WaveMedium.Number.Elementary
Purpose: Sine and natural logarithm, computed in fixed point and rounded once to a double.
Main exports:
  pi, sqrtTwo, sine, naturalLog
-/
import WaveMedium.Number.Binary

namespace WaveMedium.Number

/-! ### Constants -/

/-- The double nearest to the ratio of a circle's circumference to its diameter. -/
def pi : Float := 3.141592653589793

/-- The double nearest to the square root of two. -/
def sqrtTwo : Float := 1.4142135623730951

/-! ### Series in fixed point

A number `x` is held as the integer `x * 2 ^ bits`, rounded down.  Every series below is summed
from its last term, so that each step is one multiplication and one division. -/

/-- The sum of `z ^ (2 * k + 1) / (2 * k + 1)` over `k < terms`, for `z` in fixed point. -/
def oddPowerSum (bits terms : Nat) (z : Nat) : Nat :=
  let one := Nat.pow 2 bits
  let square := z * z / one
  let rec sum : Nat → Nat → Nat → Nat
    | 0, _, _ => 0
    | fuel + 1, k, power => power / (2 * k + 1) + sum fuel (k + 1) (power * square / one)
  sum terms 0 z

/-- The inverse tangent of `1 / d` in fixed point, as the alternating sum of odd powers. -/
def inverseTangent (bits : Nat) (d : Int) : Int :=
  let rec sum : Nat → Int → Int → Int
    | 0, _, _ => 0
    | fuel + 1, k, power => power / (2 * k + 1) - sum fuel (k + 1) (power / (d * d))
  sum (bits / 4 + 8) 0 ((Nat.pow 2 bits : Nat) / d)

/-- A full turn, twice pi, in fixed point: pi is `16 arctan (1/5) - 4 arctan (1/239)`.  Sixty-four
further bits are carried and dropped. -/
def fullTurn (bits : Nat) : Nat :=
  let fine := bits + 64
  ((32 * inverseTangent fine 5 - 8 * inverseTangent fine 239) / (Nat.pow 2 64 : Nat)).toNat

/-- The sine of an angle in fixed point: the terms of its power series alternate, and each is the
one before it times the angle's square over the next two factors of the factorial. -/
def sineSeries (bits : Nat) (angle : Int) : Int :=
  let one : Int := Nat.pow 2 bits
  let square := angle * angle / one
  let rec sum : Nat → Int → Int → Int
    | 0, _, _ => 0
    | fuel + 1, k, term => term - sum fuel (k + 2) (term * square / one / ((k + 1) * (k + 2)))
  sum (bits / 4 + 8) 1 angle

/-! ### The two functions -/

/-- The sine of `m * 2 ^ q`, taken positive, as an integer over a power of two.  The angle is
reduced by full turns with as many bits as its size asks for, which leaves 256 after the point. -/
def sineOfScaled (m : Nat) (q : Int) : Int × Int :=
  let bits := 256 + (q + 53).toNat
  let angle := m * Nat.pow 2 (q + bits).toNat
  (sineSeries bits (angle % fullTurn bits), -(bits : Int))

/-- The sine of an angle in radians, correctly rounded up to the error of 250 binary places.  Below
`2 ^ -26` the sine rounds to the angle.  A sine need not be correctly rounded: this is one of the
results that a library may give, and the last bits of others differ. -/
def sine (x : Float) : Float :=
  match Binary.ofFloat x with
  | .notANumber | .infinite _ => 0.0 / 0.0
  | .finite negative m q =>
      if (m.log2 : Int) + q < -26 then x
      else
        let (value, exponent) := sineOfScaled m q
        (Binary.finite (negative != decide (value < 0)) value.natAbs exponent).toFloat

/-- The natural logarithm, correctly rounded up to the error of 250 binary places.  With the
argument written as `y * 2 ^ p` for `y` from one to two it is `p * log 2 + log y`, and both
logarithms are twice an inverse hyperbolic tangent.  As with the sine, the last bits of another
library may differ. -/
def naturalLog (x : Float) : Float :=
  match Binary.ofFloat x with
  | .notANumber => x
  | .infinite negative => if negative then 0.0 / 0.0 else x
  | .finite negative m q =>
      if m = 0 then (Binary.infinite true).toFloat
      else if negative then 0.0 / 0.0
      else
        let bits := 320
        let one := Nat.pow 2 bits
        let y := m * Nat.pow 2 (bits - m.log2)
        let logTwo := 2 * oddPowerSum bits 128 (one / 3)
        let logY := 2 * oddPowerSum bits 128 ((y - one) * one / (y + one))
        let value : Int := (q + m.log2) * logTwo + logY
        (Binary.finite (decide (value < 0)) value.natAbs (-(bits : Int))).toFloat

end WaveMedium.Number
