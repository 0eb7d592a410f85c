/-
# Binary fractions of 53 bits

The numbers that a 64-bit binary floating-point format holds, without sign: a significand times a
power of two.  `nearest` rounds a quotient to the nearest of them, a tie to the even significand,
and every operation rounds its exact result that way.
-/

namespace DeviceFleet.Decimal

/-- The number `significand * 2 ^ exponent`. -/
structure Binary64 where
  /-- The digits, below `2 ^ 53`. -/
  significand : Nat
  /-- The power of two, at least `-1074`. -/
  exponent : Int
deriving DecidableEq, Repr

/-- The quotient `numerator / denominator` with `factor ^ power` divided out. -/
def scaled (factor : Nat) (power : Int) (numerator denominator : Nat) : Nat × Nat :=
  match power with
  | .ofNat k => (numerator, denominator * Nat.pow factor k)
  | .negSucc k => (numerator * Nat.pow factor (k + 1), denominator)

/-- The quotient `numerator / denominator` rounded to a whole number, a tie to the even one. -/
def roundEven (numerator denominator : Nat) : Nat :=
  let q := numerator / denominator
  let r := numerator % denominator
  if 2 * r > denominator || (2 * r == denominator && q % 2 == 1) then q + 1 else q

namespace Binary64

/-- Zero. -/
def zero : Binary64 := ⟨0, -1074⟩

/-- Whether the number is zero. -/
def isZero (x : Binary64) : Bool := x.significand == 0

/-- The number as a quotient. -/
def quotient (x : Binary64) : Nat × Nat := scaled 2 (-x.exponent) x.significand 1

/-- The least exponent that leaves a positive quotient below `2 ^ 53`. -/
def exponentFor (numerator denominator : Nat) : Int :=
  let low : Int := max (-1074) (numerator.log2 - denominator.log2 - 53)
  let lowest := scaled 2 low numerator denominator
  if lowest.1 < lowest.2 * Nat.pow 2 53 then low else low + 1

/-- The number nearest to a quotient, a tie going to the even significand; none when it would lie
beyond the largest number of the format. -/
def nearest (numerator denominator : Nat) : Option Binary64 :=
  if numerator = 0 then some zero
  else
    let e := exponentFor numerator denominator
    let s := scaled 2 e numerator denominator
    let m := roundEven s.1 s.2
    let x : Binary64 := if m = Nat.pow 2 53 then ⟨Nat.pow 2 52, e + 1⟩ else ⟨m, e⟩
    if x.exponent > 971 then none else some x

/-- The rounded product. -/
def mul (x y : Binary64) : Option Binary64 :=
  let (a, b) := x.quotient
  let (c, d) := y.quotient
  nearest (a * c) (b * d)

/-- The rounded quotient by a number other than zero. -/
def div (x y : Binary64) : Option Binary64 :=
  let (a, b) := x.quotient
  let (c, d) := y.quotient
  nearest (a * d) (b * c)

/-- The number nearest to a power of ten. -/
def powerOfTen (k : Nat) : Option Binary64 := nearest (Nat.pow 10 k) 1

/-- `x * 10 ^ power` for `power` from `-308` to `308`, by one rounded multiplication or division
by the rounded power of ten. -/
def timesTabulatedPower (x : Binary64) (power : Int) : Option Binary64 :=
  match power with
  | .ofNat k => (powerOfTen k).bind x.mul
  | .negSucc k => (powerOfTen (k + 1)).bind x.div

/-- `x` divided by the rounded `10 ^ 308` so many times, or until nothing is left of it. -/
def shrink (x : Binary64) : Nat → Option Binary64
  | 0 => some x
  | n + 1 => if x.isZero then some x else (x.timesTabulatedPower (-308)).bind (shrink · n)

/-- `x * 10 ^ power`, where a power below `-308` is taken off in steps of `-308`.  None is too
large a result. -/
def timesPowerOfTen (x : Binary64) (power : Int) : Option Binary64 :=
  if power < -308 then
    let steps := (power.natAbs - 1) / 308
    (x.shrink steps).bind (·.timesTabulatedPower (power + 308 * steps))
  else if power ≤ 308 then x.timesTabulatedPower power
  else if x.isZero then some x
  else none

end Binary64

end DeviceFleet.Decimal
