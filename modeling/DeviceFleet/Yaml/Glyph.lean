/-
# Characters in their places

The text of a configuration is read as characters that know their line and column, since what a
character means depends on where it stands.  All common line breaks are one character to the
reader.
-/

namespace DeviceFleet.Yaml

/-- A character with its place. -/
structure Glyph where
  /-- The character. -/
  char : Char
  /-- The number of its line, from zero. -/
  line : Nat
  /-- The number of characters before it on that line. -/
  column : Nat
  /-- The number of bytes before it on that line, in UTF-8. -/
  offset : Nat
deriving DecidableEq, Repr

/-- The characters that a text may hold: the printable ones, and of the controls tab, line feed,
carriage return and next line. -/
def isAllowed (c : Char) : Bool :=
  let n := c.toNat
  n == 0x9 || n == 0xA || n == 0xD || (0x20 ≤ n && n ≤ 0x7E) || n == 0x85 ||
    (0xA0 ≤ n && n ≤ 0xFFFD) || 0x10000 ≤ n

/-- Line breaks, after `unifyBreaks`. -/
def isBreak (c : Char) : Bool := c == '\n' || c == '\u2028' || c == '\u2029'

/-- The blanks within a line. -/
def isSpace (c : Char) : Bool := c == ' ' || c == '\t'

/-- Blanks and line breaks. -/
def isGap (c : Char) : Bool := isSpace c || isBreak c

/-- The characters of names: ASCII letters and digits, the dash and the underscore. -/
def isNameChar (c : Char) : Bool := c.isAlphanum || c == '-' || c == '_'

/-- A text with a line feed for each line break that is a carriage return, a line feed, both, or a
next line. -/
def unifyBreaks : List Char → List Char
  | [] => []
  | '\r' :: '\n' :: r => '\n' :: unifyBreaks r
  | c :: r => (if c = '\r' || c = '\u0085' then '\n' else c) :: unifyBreaks r

/-- The glyphs of a text that starts at a place. -/
def place (line column offset : Nat) : List Char → List Glyph
  | [] => []
  | c :: r =>
    ⟨c, line, column, offset⟩ ::
      if isBreak c then place (line + 1) 0 0 r else place line (column + 1) (offset + c.utf8Size) r

/-- The glyphs of a text, unless it holds a character that it may not. -/
def glyphs? (text : List Char) : Option (List Glyph) :=
  if text.all isAllowed then some (place 0 0 0 (unifyBreaks text)) else none

/-! ## What comes next -/

/-- Whether the next character satisfies `p`. -/
def nextIs (p : Char → Bool) : List Glyph → Bool
  | [] => false
  | g :: _ => p g.char

/-- Whether a blank, a line break or the end comes next. -/
def gapNext : List Glyph → Bool
  | [] => true
  | g :: _ => isGap g.char

/-- Whether a line starts here that marks the start of a document. -/
def startMarkNext : List Glyph → Bool
  | a :: b :: c :: r =>
    a.column == 0 && a.char == '-' && b.char == '-' && c.char == '-' && gapNext r
  | _ => false

/-- Whether a line starts here that marks the end of a document. -/
def endMarkNext : List Glyph → Bool
  | a :: b :: c :: r =>
    a.column == 0 && a.char == '.' && b.char == '.' && c.char == '.' && gapNext r
  | _ => false

/-- Whether a line starts here that marks the start or end of a document. -/
def documentMarkNext (s : List Glyph) : Bool := startMarkNext s || endMarkNext s

/-- The glyphs up to the first that does not satisfy `p`, as text. -/
def takeText (p : Char → Bool) (s : List Glyph) : List Char :=
  (s.takeWhile fun g => p g.char).map (·.char)

/-- The glyphs from the first that does not satisfy `p`. -/
def skip (p : Char → Bool) (s : List Glyph) : List Glyph := s.dropWhile fun g => p g.char

theorem length_skip_le (p : Char → Bool) (s : List Glyph) : (skip p s).length ≤ s.length :=
  (List.dropWhile_sublist _).length_le

end DeviceFleet.Yaml
