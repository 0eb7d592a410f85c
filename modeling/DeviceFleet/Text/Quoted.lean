/-
# Quoted texts

Names in error texts stand between double quotes.  Inside, a backslash marks an escape: one letter
for the common controls, the quote and the backslash themselves, and the code point in
hexadecimal between braces for every other character that would not be seen on its own.
-/
import DeviceFleet.Text.Combining
import DeviceFleet.Text.Hexadecimal
import DeviceFleet.Text.Printable

namespace DeviceFleet.Text

/-- One character inside quotes. -/
def quoteChar (c : Char) : List Char :=
  if c = '\x00' then ['\\', '0']
  else if c = '\t' then ['\\', 't']
  else if c = '\r' then ['\\', 'r']
  else if c = '\n' then ['\\', 'n']
  else if c = '\\' then ['\\', '\\']
  else if c = '"' then ['\\', '"']
  else if !isCombining c && isPrintable c then [c]
  else ['\\', 'u', '\x7b'] ++ toHex c.toNat ++ ['\x7d']

/-- A text between quotes. -/
def quote (s : List Char) : List Char := '"' :: s.flatMap quoteChar ++ ['"']

/-- A text between quotes, as a string. -/
def quoted (s : String) : String := String.ofList (quote s.toList)

end DeviceFleet.Text
