/-
# The shortest decimal of a binary fraction

Among the decimals that round back to a number, the shortest one is written; of two with equally
many digits, the nearer.  For one digit, two digits, and so on, the number's two neighbours on
that decimal grid are tried, so the first grid with a hit gives the fewest digits.
-/
import DeviceFleet.Decimal.Binary64

namespace DeviceFleet.Decimal

/-- The decimal `digits * 10 ^ power`. -/
structure Digits where
  /-- All digits as one whole number. -/
  digits : Nat
  /-- The power of ten of the last digit. -/
  power : Int
deriving DecidableEq, Repr

/-- A whole number in decimal digits. -/
def decimalDigits (n : Nat) : List Char := (Nat.repr n).toList

/-- The power of ten of the first digit of a positive quotient. -/
def leadingPower (numerator denominator : Nat) : Int :=
  let guess : Int := (decimalDigits numerator).length - (decimalDigits denominator).length
  let s := scaled 10 guess numerator denominator
  if s.1 < s.2 then guess - 1 else guess

namespace Binary64

/-- The ends of the interval of numbers that round to `x`, and `x` itself between them, in units
of a quarter of its last binary place.  Below a power of two the grid is twice as fine. -/
def interval (x : Binary64) : Nat × Nat × Nat :=
  let v := 4 * x.significand
  let low := if x.significand = Nat.pow 2 52 && x.exponent > -1074 then v - 1 else v - 2
  (low, v, v + 2)

/-- The neighbour of `x` on the grid of step `10 ^ power` that rounds back to `x`, the nearer if
both do, and on a tie the even one. -/
def hit? (x : Binary64) (power : Int) : Option Nat :=
  let (low, v, high) := x.interval
  let unit := scaled 2 (2 - x.exponent) 1 1
  let grid := scaled 10 power unit.1 unit.2
  let inside (c : Nat) : Bool :=
    if x.significand % 2 == 0 then low * grid.1 ≤ c * grid.2 && c * grid.2 ≤ high * grid.1
    else low * grid.1 < c * grid.2 && c * grid.2 < high * grid.1
  let below := v * grid.1 / grid.2
  let above := below + 1
  let gapBelow := v * grid.1 - below * grid.2
  let gapAbove := above * grid.2 - v * grid.1
  if inside below && inside above then
    if gapBelow < gapAbove || (gapBelow == gapAbove && below % 2 == 0) then some below
    else some above
  else if inside below then some below
  else if inside above then some above
  else none

/-- The first of the grids `10 ^ top`, `10 ^ (top - 1)`, and so on that has a hit. -/
def firstHit (x : Binary64) (top : Int) : Nat → Digits
  | 0 => ⟨(x.hit? top).getD 0, top⟩
  | n + 1 =>
    match x.hit? top with
    | some c => ⟨c, top⟩
    | none => x.firstHit (top - 1) n

/-- The shortest decimal that rounds back to a positive number; seventeen digits always do. -/
def shortest (x : Binary64) : Digits :=
  let (a, b) := x.quotient
  x.firstHit (leadingPower a b) 17

end Binary64

/-- Which decimals are laid out without an exponent. -/
structure Layout where
  /-- The least power of the first digit that is written without an exponent. -/
  plainFrom : Int
  /-- The greatest power of the first digit that is written without an exponent. -/
  plainTo : Int
deriving Repr

/-- The digits without the zeros at their end. -/
def significant (ds : List Char) : List Char := (ds.reverse.dropWhile (· == '0')).reverse

/-- A decimal in the given layout.  Without an exponent there is always a digit on both sides of
the point; with one, the point stands after the first digit, if a second one follows, and the
exponent has a sign and no zeros in front. -/
def Digits.text (d : Digits) (layout : Layout) : List Char :=
  let all := decimalDigits d.digits
  let leading : Int := d.power + all.length - 1
  let ds := significant all
  if layout.plainFrom ≤ leading && leading ≤ layout.plainTo then
    if leading < 0 then
      ['0', '.'] ++ List.replicate (-leading - 1).toNat '0' ++ ds
    else
      let whole := ds.take (leading.toNat + 1)
      let fraction := ds.drop (leading.toNat + 1)
      whole ++ List.replicate (leading.toNat + 1 - whole.length) '0' ++ ['.'] ++
        (if fraction.isEmpty then ['0'] else fraction)
  else
    let fraction := ds.drop 1
    ds.take 1 ++ (if fraction.isEmpty then [] else '.' :: fraction) ++ ['e'] ++
      [if leading < 0 then '-' else '+'] ++ decimalDigits leading.natAbs

/-- The text of a number with its sign. -/
def Binary64.text (negative : Bool) (x : Binary64) (layout : Layout) : List Char :=
  (if negative then ['-'] else []) ++
    if x.isZero then ['0', '.', '0'] else x.shortest.text layout

end DeviceFleet.Decimal
