/-
# Hexadecimal numbers

Numbers written with the digits `0` to `9` and `a` to `f`; reading accepts capital letters too.
-/

namespace DeviceFleet.Text

/-- The digit of a number below sixteen. -/
def hexDigit (d : Nat) : Char := if d < 10 then Char.ofNat (48 + d) else Char.ofNat (87 + d)

/-- The value of a digit, in either case. -/
def hexValue? (c : Char) : Option Nat :=
  let n := c.toNat
  if 48 ≤ n ∧ n ≤ 57 then some (n - 48)
  else if 97 ≤ n ∧ n ≤ 102 then some (n - 87)
  else if 65 ≤ n ∧ n ≤ 70 then some (n - 55)
  else none

theorem hexValue?_hexDigit : ∀ d, d < 16 → hexValue? (hexDigit d) = some d := by decide

/-- A number in as few digits as it takes. -/
def toHex (n : Nat) : List Char :=
  if n < 16 then [hexDigit n] else toHex (n / 16) ++ [hexDigit (n % 16)]

/-- A number in exactly `width` digits; higher digits are lost. -/
def toHexPadded : Nat → Nat → List Char
  | 0, _ => []
  | width + 1, n => toHexPadded width (n / 16) ++ [hexDigit (n % 16)]

/-- The number that four digits spell. -/
def ofHex4? (a b c d : Char) : Option Nat := do
  return ((← hexValue? a) * 16 + (← hexValue? b)) * 256 + (← hexValue? c) * 16 + (← hexValue? d)

end DeviceFleet.Text
