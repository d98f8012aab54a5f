/-
Module: WaveMedium.Number.Binary
Purpose: Double-precision numbers as a sign, a natural number and a power of two.
Main exports:
  roundHalfEven, Format, Format.nearest, Format.round,
  Binary, Binary.ofFloat, Binary.toFloat, Binary.floor, Binary.nearestInteger
-/

namespace WaveMedium.Number

/-! ### Rounding a quotient -/

/-- The natural number nearest to `n / d`; a half goes to the even neighbour. -/
def roundHalfEven (n d : Nat) : Nat :=
  let below := n / d
  let rest := 2 * (n % d)
  if rest < d then below
  else if d < rest then below + 1
  else if below % 2 = 0 then below
  else below + 1

/-! ### Formats -/

/-- A binary floating-point format: how many binary digits a number has, the exponent of the
least positive number, and the exponent of the first power of two that is too large. -/
structure Format where
  digits : Nat
  least : Int
  top : Int
deriving DecidableEq, Repr

/-- Double precision. -/
def Format.double : Format where
  digits := 53
  least := -1074
  top := 1024

/-- Single precision. -/
def Format.single : Format where
  digits := 24
  least := -149
  top := 128

/-- Numbers of the format near `m * 2 ^ q` are whole multiples of two to this power. -/
def Format.spacing (format : Format) (m : Nat) (q : Int) : Int :=
  if m = 0 then format.least else max (q + m.log2 + 1 - format.digits) format.least

/-- The whole multiple of the local spacing nearest to `m * 2 ^ q`, as a count of spacings and
the exponent of the spacing.  A half goes to the even count. -/
def Format.nearest (format : Format) (m : Nat) (q : Int) : Nat × Int :=
  let grain := format.spacing m q
  if grain ≤ q then (m * Nat.pow 2 (q - grain).toNat, grain)
  else (roundHalfEven m (Nat.pow 2 (grain - q).toNat), grain)

/-! ### What a double stands for -/

/-- The value of a double: no number, an infinity, or a signed `mantissa * 2 ^ exponent`. -/
inductive Binary where
  | notANumber
  | infinite (negative : Bool)
  | finite (negative : Bool) (mantissa : Nat) (exponent : Int)
deriving DecidableEq, Repr

/-- Split the bits of a double into sign, mantissa and exponent. -/
def Binary.ofFloat (x : Float) : Binary :=
  let bits : Nat := x.toBits.toNat
  let negative := decide (Nat.pow 2 63 ≤ bits)
  let field : Nat := bits / Nat.pow 2 52 % Nat.pow 2 11
  let fraction : Nat := bits % Nat.pow 2 52
  if field = 2047 then
    if fraction = 0 then .infinite negative else .notANumber
  else if field = 0 then .finite negative fraction (-1074)
  else .finite negative (Nat.pow 2 52 + fraction) ((field : Int) - 1075)

/-- The bits of positive infinity, which follow those of the largest finite number. -/
def infinityBits : Nat := 2047 * Nat.pow 2 52

/-- The bits of the double nearest to `m * 2 ^ q`.  Counting the spacings from zero upwards, the
bits of consecutive doubles are consecutive, so a carry into the next binade needs no case. -/
def magnitudeBits (m : Nat) (q : Int) : Nat :=
  let (count, grain) := Format.double.nearest m q
  min ((grain + 1074).toNat * Nat.pow 2 52 + count) infinityBits

/-- The sign bit in its place. -/
def signBit (negative : Bool) : Nat := if negative then Nat.pow 2 63 else 0

/-- The double nearest to a value. -/
def Binary.toFloat : Binary → Float
  | .notANumber => 0.0 / 0.0
  | .infinite negative => Float.ofBits (UInt64.ofNat (signBit negative + infinityBits))
  | .finite negative m q => Float.ofBits (UInt64.ofNat (signBit negative + magnitudeBits m q))

/-- Round a value to a format.  What reaches the format's top becomes infinite. -/
def Format.round (format : Format) : Binary → Binary
  | .finite negative m q =>
      let (count, grain) := format.nearest m q
      if format.top ≤ count.log2 + grain then .infinite negative
      else .finite negative count grain
  | special => special

/-! ### Whole numbers -/

/-- The largest whole number that is at most the value.  The sign is kept, also that of zero. -/
def Binary.floor : Binary → Binary
  | .finite negative m q =>
      if 0 ≤ q then .finite negative m q
      else
        let unit := Nat.pow 2 (-q).toNat
        .finite negative (if negative then (m + unit - 1) / unit else m / unit) 0
  | special => special

/-- The nearest whole number; a half goes away from zero.  The sign is kept. -/
def Binary.nearestInteger : Binary → Binary
  | .finite negative m q =>
      if 0 ≤ q then .finite negative m q
      else
        let unit := Nat.pow 2 (-q).toNat
        .finite negative ((2 * m + unit) / (2 * unit)) 0
  | special => special

end WaveMedium.Number
