/-
Module: WaveMedium.Number.Decimal
Purpose: The decimal with the fewest digits that stands for a double, and its written form.
Main exports:
  Decimal, Decimal.Candidates, shortestDecimal, Decimal.Style, Decimal.Style.write
-/
import WaveMedium.Number.Binary

namespace WaveMedium.Number

/-- The decimal `digits * 10 ^ exponent`. -/
structure Decimal where
  digits : Nat
  exponent : Int
deriving DecidableEq, Repr

/-! ### Which decimals stand for a double

The reals that round to `m * 2 ^ q` reach half-way to the neighbours on both sides.  In quarters of
`2 ^ q` the double is `4 * m`, the upper end is two above it, and the lower end two below, or one
if the double is the least of its binade.  The ends belong to the interval when `m` is even. -/

/-- The two multiples of `10 ^ exponent` next to `m * 2 ^ q`, over a common denominator: decimals
are counted in units of `decimalUnit` and quarters of `2 ^ q` in units of `binaryUnit`. -/
structure Decimal.Grid where
  m : Nat
  exponent : Int
  decimalUnit : Nat
  binaryUnit : Nat
  narrowBelow : Bool

/-- The grid of multiples of `10 ^ exponent` around `m * 2 ^ q`. -/
def Decimal.gridAround (m : Nat) (q exponent : Int) : Decimal.Grid where
  m := m
  exponent := exponent
  decimalUnit := Nat.pow 10 exponent.toNat * Nat.pow 2 (2 - q).toNat
  binaryUnit := Nat.pow 2 (q - 2).toNat * Nat.pow 10 (-exponent).toNat
  narrowBelow := decide (m = Nat.pow 2 52) && decide (-1074 < q)

/-- Whether `digits` units of the grid round to the double. -/
def Decimal.Grid.readsBack (grid : Decimal.Grid) (digits : Nat) : Bool :=
  let low := (4 * grid.m - if grid.narrowBelow then 1 else 2) * grid.binaryUnit
  let high := (4 * grid.m + 2) * grid.binaryUnit
  let here := digits * grid.decimalUnit
  if grid.m % 2 = 0 then decide (low ≤ here) && decide (here ≤ high)
  else decide (low < here) && decide (here < high)

/-- The grid's decimal for the double: of the two multiples next to it the one that rounds to it,
the nearer if both do, and the upper if both are equally near. -/
def Decimal.Grid.select? (grid : Decimal.Grid) : Option Decimal :=
  let quarters := 4 * grid.m * grid.binaryUnit
  let below := quarters / grid.decimalUnit
  let above := below + 1
  let nearerBelow := decide (2 * quarters < (below + above) * grid.decimalUnit)
  match grid.readsBack below, grid.readsBack above with
  | true, true => some ⟨if nearerBelow then below else above, grid.exponent⟩
  | true, false => some ⟨below, grid.exponent⟩
  | false, true => some ⟨above, grid.exponent⟩
  | false, false => none

/-- Go from coarse grids to fine ones and take the first decimal found. -/
def Decimal.refine (m : Nat) (q : Int) : Nat → Int → Option Decimal
  | 0, _ => none
  | fuel + 1, exponent =>
      match (Decimal.gridAround m q exponent).select? with
      | some decimal => some decimal
      | none => Decimal.refine m q fuel (exponent - 1)

/-- The value `m * 2 ^ q` as a decimal, digit for digit. -/
def Decimal.exact (m : Nat) (q : Int) : Decimal :=
  if 0 ≤ q then ⟨m * Nat.pow 2 q.toNat, 0⟩ else ⟨m * Nat.pow 5 (-q).toNat, q⟩

/-- The fewest digits that round to the double `m * 2 ^ q`, and of those the nearest.  The first grid
is coarser than the double, and each further grid allows one more digit. -/
def shortestDecimal (m : Nat) (q : Int) : Decimal :=
  let coarse := (q + m.log2 + 1) * 30103 / 100000 + 1
  (Decimal.refine m q 24 coarse).getD (Decimal.exact m q)

/-! ### Written form -/

/-- How decimals are written: leading digits at a power of ten from `plainFrom` up to but not
including `plainBelow` are written with a point in its place and at least one decimal, all others
as digit, point, further digits and an exponent. -/
structure Decimal.Style where
  plainFrom : Int
  plainBelow : Int
  undefinedText : String
  infiniteText : String

/-- Digits without the zeros at their end. -/
def trimZeros (digits : List Char) : List Char :=
  (digits.reverse.dropWhile (· == '0')).reverse

/-- Write a decimal other than zero. -/
def Decimal.Style.writeDecimal (style : Decimal.Style) (decimal : Decimal) : List Char :=
  let all := Nat.toDigits 10 decimal.digits
  let digits := trimZeros all
  let leading : Int := decimal.exponent + all.length - 1
  if style.plainFrom ≤ leading ∧ leading < style.plainBelow then
    if leading < 0 then
      '0' :: '.' :: (List.replicate (-leading - 1).toNat '0' ++ digits)
    else
      let whole := leading.toNat + 1
      let fraction := digits.drop whole
      digits.take whole ++ List.replicate (whole - digits.length) '0' ++
        '.' :: (if fraction.isEmpty then ['0'] else fraction)
  else
    let fraction := digits.drop 1
    digits.take 1 ++ (if fraction.isEmpty then [] else '.' :: fraction) ++
      'e' :: (if leading < 0 then ['-'] else []) ++ Nat.toDigits 10 leading.natAbs

/-- Write a double with the fewest digits that identify it. -/
def Decimal.Style.write (style : Decimal.Style) (x : Float) : String :=
  let sign (negative : Bool) : String := if negative then "-" else ""
  match Binary.ofFloat x with
  | .notANumber => style.undefinedText
  | .infinite negative => sign negative ++ style.infiniteText
  | .finite negative m q =>
      if m = 0 then sign negative ++ "0.0"
      else sign negative ++ String.ofList (style.writeDecimal (shortestDecimal m q))

end WaveMedium.Number
