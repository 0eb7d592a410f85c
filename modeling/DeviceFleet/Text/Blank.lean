/-
# Blank characters and lines

Which characters count as blank is the Unicode property `White_Space`; `trim` takes them off
both ends of a text.  `lines` cuts a text after every line feed: a carriage return just before
the line feed belongs to the line ending, and a text that ends in a line feed has no empty last
line.
-/

namespace DeviceFleet.Text

/-- The characters with the Unicode property `White_Space`. -/
def isBlank (c : Char) : Bool :=
  let n := c.toNat
  (0x9 ≤ n && n ≤ 0xD) || n == 0x20 || n == 0x85 || n == 0xA0 || n == 0x1680 ||
    (0x2000 ≤ n && n ≤ 0x200A) || n == 0x2028 || n == 0x2029 || n == 0x202F || n == 0x205F ||
    n == 0x3000

/-- A text without the blanks at its start. -/
def trimStart (s : List Char) : List Char := s.dropWhile isBlank

/-- A text without the blanks at its end. -/
def trimEnd (s : List Char) : List Char := (s.reverse.dropWhile isBlank).reverse

/-- A text without the blanks at either end. -/
def trim (s : List Char) : List Char := trimEnd (trimStart s)

/-- The line that `reversed` spells backwards, without the carriage return of its ending. -/
def closeLine (reversed : List Char) : List Char :=
  match reversed with
  | '\r' :: r => r.reverse
  | r => r.reverse

/-- The lines of a text whose current line so far is `reversed`, backwards. -/
def linesFrom (reversed : List Char) : List Char → List (List Char)
  | [] => if reversed.isEmpty then [] else [reversed.reverse]
  | '\n' :: r => closeLine reversed :: linesFrom [] r
  | c :: r => linesFrom (c :: reversed) r

/-- The lines of a text.  The last line keeps a carriage return that no line feed follows. -/
def lines (s : List Char) : List (List Char) := linesFrom [] s

end DeviceFleet.Text
