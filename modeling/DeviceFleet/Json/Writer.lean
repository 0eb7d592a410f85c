/-
# Written values

Values are written without space between them, the members of an object in the order in which
they are given.
-/
import DeviceFleet.Json.Text

namespace DeviceFleet.Json

/-- A written string. -/
def writeString (s : String) : List Char := writeText s.toList

/-- A written whole number. -/
def writeNat (n : Nat) : List Char := Decimal.decimalDigits n

/-- Written values with a comma between each two. -/
def separated : List (List Char) → List Char
  | [] => []
  | [t] => t
  | t :: u :: ts => t ++ ',' :: separated (u :: ts)

/-- An array of written values. -/
def writeList (values : List (List Char)) : List Char := '[' :: separated values ++ [']']

/-- A member of an object: a key and a written value. -/
structure Member where
  /-- The key. -/
  key : String
  /-- The written value. -/
  value : List Char
deriving DecidableEq, Repr

namespace Member

/-- A member that holds a string. -/
def text (key value : String) : Member := ⟨key, writeString value⟩

/-- A member that holds a string, left out when the string is empty. -/
def textUnlessEmpty (key value : String) : List Member :=
  if value.isEmpty then [] else [text key value]

/-- A written member. -/
def write (m : Member) : List Char := writeString m.key ++ ':' :: m.value

end Member

/-- An object of written members. -/
def writeObject (members : List Member) : List Char :=
  '\x7b' :: separated (members.map Member.write) ++ ['\x7d']

end DeviceFleet.Json
