/-
# Why a JSON text is refused

A text is refused because it ends too early, because it breaks the grammar, or because a value in
it does not fit the record it is read as.  A reader records what was left of the text when it gave
up; the line and column follow from that and the whole text.  Columns count bytes of the UTF-8
form, and a line feed counts to the line that it ends.
-/
import DeviceFleet.Decimal.Shortest
import DeviceFleet.Text.Quoted

namespace DeviceFleet.Json

open DeviceFleet.Decimal

/-- A value that stood where another kind was expected. -/
inductive Found where
  /-- The word `null`. -/
  | null
  /-- One of the words `true` and `false`. -/
  | boolean (value : Bool)
  /-- A whole number of 64 bits. -/
  | integer (value : Int)
  /-- Any other number, rounded. -/
  | real (negative : Bool) (magnitude : Binary64)
  /-- A string. -/
  | text (value : List Char)
  /-- An array, not looked into. -/
  | list
  /-- An object, not looked into. -/
  | object
deriving DecidableEq, Repr

/-- What a reader objects to. -/
inductive Cause where
  /-- The text ends inside an array. -/
  | endInList
  /-- The text ends inside an object. -/
  | endInObject
  /-- The text ends inside a string. -/
  | endInText
  /-- The text ends where a value was expected, or inside a word or number. -/
  | endInValue
  /-- A key is not followed by a colon. -/
  | expectedColon
  /-- An element is followed by neither a comma nor the end of its array. -/
  | expectedCommaOrEndOfList
  /-- A member is followed by neither a comma nor the end of its object. -/
  | expectedCommaOrEndOfObject
  /-- A word other than `null`, `true` and `false`. -/
  | expectedWord
  /-- A character that starts no value. -/
  | expectedValue
  /-- A backslash with no escape after it. -/
  | invalidEscape
  /-- A number that breaks the grammar of numbers. -/
  | invalidNumber
  /-- A number beyond the largest binary fraction. -/
  | numberOutOfRange
  /-- A control character inside a string. -/
  | controlCharacter
  /-- A key that is no string. -/
  | keyNotText
  /-- Half of a surrogate pair. -/
  | loneSurrogate
  /-- A comma before the end of an array or object. -/
  | trailingComma
  /-- More text after the value. -/
  | trailingCharacters
  /-- The first half of a surrogate pair without an escape after it. -/
  | unexpectedEndOfEscape
  /-- A value of the wrong kind. -/
  | wrongType (found : Found) (expected : String)
  /-- A whole number outside the range of its field. -/
  | wrongValue (found : Int) (expected : String)
  /-- An array with too few elements. -/
  | wrongLength (length : Nat) (expected : String)
  /-- A field without default that does not occur. -/
  | missingField (name : String)
  /-- A field that occurs twice. -/
  | duplicateField (name : String)
deriving DecidableEq, Repr

/-- Numbers from `0.00001` up to sixteen digits before the point are written without an
exponent. -/
def numberLayout : Layout := ⟨-5, 15⟩

/-- A value as error texts show it. -/
def Found.display : Found → String
  | .null => "null"
  | .boolean b => s!"boolean `{b}`"
  | .integer i => s!"integer `{i}`"
  | .real negative x => s!"floating point `{String.ofList (x.text negative numberLayout)}`"
  | .text s => s!"string {String.ofList (Text.quote s)}"
  | .list => "sequence"
  | .object => "map"

/-- The text of a cause, without its place. -/
def Cause.message : Cause → String
  | .endInList => "EOF while parsing a list"
  | .endInObject => "EOF while parsing an object"
  | .endInText => "EOF while parsing a string"
  | .endInValue => "EOF while parsing a value"
  | .expectedColon => "expected `:`"
  | .expectedCommaOrEndOfList => "expected `,` or `]`"
  | .expectedCommaOrEndOfObject => "expected `,` or `\x7d`"
  | .expectedWord => "expected ident"
  | .expectedValue => "expected value"
  | .invalidEscape => "invalid escape"
  | .invalidNumber => "invalid number"
  | .numberOutOfRange => "number out of range"
  | .controlCharacter => "control character (\\u0000-\\u001F) found while parsing a string"
  | .keyNotText => "key must be a string"
  | .loneSurrogate => "lone leading surrogate in hex escape"
  | .trailingComma => "trailing comma"
  | .trailingCharacters => "trailing characters"
  | .unexpectedEndOfEscape => "unexpected end of hex escape"
  | .wrongType found expected => s!"invalid type: {found.display}, expected {expected}"
  | .wrongValue found expected => s!"invalid value: integer `{found}`, expected {expected}"
  | .wrongLength length expected => s!"invalid length {length}, expected {expected}"
  | .missingField name => s!"missing field `{name}`"
  | .duplicateField name => s!"duplicate field `{name}`"

/-- A place in a text. -/
structure Position where
  /-- The number of the line, from one. -/
  line : Nat
  /-- The bytes of that line before the place. -/
  column : Nat
deriving DecidableEq, Repr

namespace Position

/-- The start of a text. -/
def start : Position := ⟨1, 0⟩

/-- The place after one more character. -/
def after (p : Position) (c : Char) : Position :=
  if c = '\n' then ⟨p.line + 1, 0⟩ else ⟨p.line, p.column + c.utf8Size⟩

/-- The place after so many more bytes, or at the end of the text. -/
def afterBytes (p : Position) : Nat → List Char → Position
  | 0, _ | _, [] => p
  | n, c :: r =>
    if c.utf8Size ≤ n then (p.after c).afterBytes (n - c.utf8Size) r else ⟨p.line, p.column + n⟩

end Position

/-- Why and where a reader gave up. -/
structure Failure where
  /-- What it objects to. -/
  cause : Cause
  /-- What was left of the text. -/
  rest : List Char
  /-- How many bytes further the failure is placed. -/
  ahead : Nat
deriving DecidableEq, Repr

/-- A refused text. -/
structure ReadError where
  /-- What is wrong. -/
  cause : Cause
  /-- Where it was noticed. -/
  position : Position
deriving DecidableEq, Repr

/-- The failure of a reader, placed in the whole text. -/
def Failure.placedIn (f : Failure) (text : List Char) : ReadError :=
  let read := text.take (text.length - f.rest.length)
  ⟨f.cause, (read.foldl Position.after Position.start).afterBytes f.ahead f.rest⟩

/-- The text of an error, with its place. -/
def ReadError.message (e : ReadError) : String :=
  s!"{e.cause.message} at line {e.position.line} column {e.position.column}"

/-- What a reader answers: a value and what is left of the text, or a failure. -/
abbrev Reading (α : Type) : Type := Except Failure (α × List Char)

/-- Gives up at the given rest of the text. -/
def failAt {α : Type} (cause : Cause) (rest : List Char) : Except Failure α :=
  .error ⟨cause, rest, 0⟩

/-- Gives up after looking at the next byte. -/
def failNext {α : Type} (cause : Cause) (rest : List Char) : Except Failure α :=
  .error ⟨cause, rest, 1⟩

end DeviceFleet.Json
