/-
# Tokens

The tokens of a document, and how those among them are read that are neither scalars nor single
marks: names of anchors, tags and directives.
-/
import DeviceFleet.Yaml.Scalar

namespace DeviceFleet.Yaml

/-- A tag as it is written: a handle and the text after it.  An empty handle says that the text is
the whole tag. -/
structure WrittenTag where
  /-- The handle. -/
  handle : List Char
  /-- The text after it. -/
  text : List Char
deriving DecidableEq, Repr

/-- A token. -/
inductive Token where
  /-- The version that a document asks for. -/
  | version (major minor : Nat)
  /-- What the tags of a document with the given handle start with. -/
  | tagPrefix (handle start : List Char)
  /-- The start of a document. -/
  | documentStart
  /-- The end of a document. -/
  | documentEnd
  /-- The start of a block sequence. -/
  | blockSequence
  /-- The start of a block mapping. -/
  | blockMapping
  /-- The end of a block sequence or mapping. -/
  | blockEnd
  /-- The start of a flow sequence. -/
  | flowSequence
  /-- The end of a flow sequence. -/
  | flowSequenceEnd
  /-- The start of a flow mapping. -/
  | flowMapping
  /-- The end of a flow mapping. -/
  | flowMappingEnd
  /-- A dash before an item. -/
  | item
  /-- A comma between items or members. -/
  | comma
  /-- The start of a key. -/
  | key
  /-- The colon before a value. -/
  | value
  /-- A node that stands elsewhere under the given name. -/
  | alias (name : List Char)
  /-- The name of the next node. -/
  | anchor (name : List Char)
  /-- The tag of the next node. -/
  | tag (written : WrittenTag)
  /-- A scalar. -/
  | scalar (isPlain : Bool) (text : List Char)
deriving DecidableEq, Repr

/-! ## Names of anchors -/

/-- Whether a name may end before what comes next. -/
def nameEndNext : List Glyph → Bool
  | [] => true
  | g :: _ => isGap g.char || "?:,]\x7d%@`".toList.contains g.char

/-- Takes the name of an anchor. -/
def anchorName (s : List Glyph) : Lexing (List Char) :=
  let name := takeText isNameChar s
  let rest := skip isNameChar s
  if !name.isEmpty && nameEndNext rest then some (name, rest) else none

/-! ## Tags -/

/-- The characters of tags that stand for themselves; `brackets` adds those that may stand in a tag
between angle brackets. -/
def isTagChar (brackets : Bool) (c : Char) : Bool :=
  isNameChar c || ";/?:@&=+$.!~*'()".toList.contains c ||
    (brackets && ",[]".toList.contains c)

/-- The byte after a percent sign. -/
def escapedByte : List Glyph → Option (Nat × List Glyph)
  | a :: b :: c :: r => do
    let high ← Text.hexValue? b.char
    let low ← Text.hexValue? c.char
    if a.char = '%' then some (high * 16 + low, r) else none
  | _ => none

/-- How many bytes follow the first byte of a character. -/
def followingBytes? (first : Nat) : Option Nat :=
  if first < 0x80 then some 0
  else if 0xC0 ≤ first ∧ first < 0xE0 then some 1
  else if 0xE0 ≤ first ∧ first < 0xF0 then some 2
  else if 0xF0 ≤ first ∧ first < 0xF8 then some 3
  else none

/-- The code point of a character, given what its first bytes say, and what is left. -/
def laterBytes (code : Nat) : Nat → List Glyph → Lexing Nat
  | 0, s => some (code, s)
  | n + 1, s =>
    match escapedByte s with
    | none => none
    | some (byte, rest) =>
      if 0x80 ≤ byte ∧ byte < 0xC0 then laterBytes (code * 64 + byte % 64) n rest else none

/-- The part of the first byte of a character that belongs to its code point. -/
def leadingBits (first following : Nat) : Nat :=
  match following with
  | 0 => first
  | 1 => first % 32
  | 2 => first % 16
  | _ => first % 8

/-- The character that a number of bytes spell, given the code point in them.  Bytes that spell no
character, or spell one in more bytes than it takes, stand for the replacement character. -/
def spelledChar (code bytes : Nat) : Char :=
  match charOfCode? code with
  | some c => if c.utf8Size = bytes then c else '\ufffd'
  | none => '\ufffd'

/-- Takes a character whose bytes are written with percent signs. -/
def escapedChar (s : List Glyph) : Option (Char × List Glyph) := do
  let (first, r) ← escapedByte s
  let following ← followingBytes? first
  let (code, rest) ← laterBytes (leadingBits first following) following r
  some (spelledChar code (following + 1), rest)

theorem length_escapedByte {s r : List Glyph} {n : Nat} (h : escapedByte s = some (n, r)) :
    r.length < s.length := by
  unfold escapedByte at h
  split at h
  · simp only [Option.bind_eq_bind, Option.bind_eq_some_iff] at h
    obtain ⟨_, -, _, -, h⟩ := h
    split at h
    · cases h
      simp only [List.length_cons]
      omega
    · cases h
  · cases h

theorem length_laterBytes {code n m : Nat} {s r : List Glyph}
    (h : laterBytes code n s = some (m, r)) : r.length ≤ s.length := by
  induction n generalizing code s with
  | zero => cases h; exact Nat.le_refl _
  | succ n ih =>
    rw [laterBytes] at h
    split at h
    · cases h
    · next hb =>
      split at h
      · exact Nat.le_trans (ih h) (Nat.le_of_lt (length_escapedByte hb))
      · cases h

theorem length_escapedChar {s r : List Glyph} {c : Char} (h : escapedChar s = some (c, r)) :
    r.length < s.length := by
  simp only [escapedChar, Option.bind_eq_bind, Option.bind_eq_some_iff] at h
  obtain ⟨⟨_, _⟩, hb, _, -, ⟨_, _⟩, hl, h⟩ := h
  cases h
  exact Nat.lt_of_le_of_lt (length_laterBytes hl) (length_escapedByte hb)

/-- Takes the text of a tag. -/
def tagText (brackets : Bool) (s : List Glyph) : Lexing (List Char) :=
  match s with
  | [] => some ([], [])
  | g :: r =>
    if isTagChar brackets g.char then Lexing.before [g.char] (tagText brackets r)
    else if g.char = '%' then
      match he : escapedChar (g :: r) with
      | none => none
      | some (c, rest) =>
        have : rest.length < r.length + 1 := length_escapedChar he
        Lexing.before [c] (tagText brackets rest)
    else some ([], g :: r)
termination_by s.length

/-- Takes the text of a tag, which may not be empty. -/
def tagText1 (brackets : Bool) (s : List Glyph) : Lexing (List Char) :=
  match tagText brackets s with
  | some (c :: text, rest) => some (c :: text, rest)
  | _ => none

/-- Takes a handle after its exclamation mark: a name, and another exclamation mark if one comes
next. -/
def handle (s : List Glyph) : List Char × List Glyph :=
  let name := '!' :: takeText isNameChar s
  match skip isNameChar s with
  | [] => (name, [])
  | g :: r => if g.char = '!' then (name ++ ['!'], r) else (name, g :: r)

/-- Whether a handle stands between two exclamation marks. -/
def isNamedHandle (handle : List Char) : Bool :=
  2 ≤ handle.length && handle.getLast? == some '!'

/-- What counts of the text of a tag: a NUL character ends it. -/
def beforeNul (text : List Char) : List Char := text.takeWhile (· != '\x00')

/-- The tag that a text without a handle of its own stands for; a lone exclamation mark is a tag
itself. -/
def localTag (text : List Char) : WrittenTag := if text.isEmpty then ⟨[], ['!']⟩ else ⟨['!'], text⟩

/-- Takes a tag after its exclamation mark, with no regard to what comes next. -/
def tagBody (s : List Glyph) : Lexing WrittenTag :=
  if nextIs (· == '<') s then
    match tagText1 true (s.drop 1) with
    | none => none
    | some (text, rest) =>
      if nextIs (· == '>') rest then some (⟨[], beforeNul text⟩, rest.drop 1) else none
  else
    let (start, r) := handle s
    if isNamedHandle start then
      match tagText1 false r with
      | none => none
      | some (text, rest) => some (⟨start, beforeNul text⟩, rest)
    else
      match tagText false r with
      | none => none
      | some (text, rest) => some (localTag (beforeNul (start.drop 1 ++ text)), rest)

/-- Takes a tag after its exclamation mark; a gap has to follow, or in a flow collection a
comma. -/
def writtenTag (inFlow : Bool) (s : List Glyph) : Lexing WrittenTag :=
  match tagBody s with
  | none => none
  | some (tag, rest) =>
    if gapNext rest || (inFlow && nextIs (· == ',') rest) then some (tag, rest) else none

/-! ## Directives -/

/-- Takes a number of one to nine digits. -/
def versionNumber (s : List Glyph) : Lexing Nat :=
  let digits := takeText Char.isDigit s
  if digits.isEmpty || 9 < digits.length then none
  else some (digits.foldl (fun n c => n * 10 + (c.toNat - '0'.toNat)) 0, skip Char.isDigit s)

/-- Takes a version. -/
def versionDirective (s : List Glyph) : Option (Token × List Glyph) := do
  let (major, r) ← versionNumber (skip isSpace s)
  let (minor, rest) ← if nextIs (· == '.') r then versionNumber (r.drop 1) else none
  some (.version major minor, rest)

/-- Takes what the tags with a handle start with. -/
def tagDirective (s : List Glyph) : Option (Token × List Glyph) := do
  let opening := skip isSpace s
  let (handle, r) ← if nextIs (· == '!') opening then some (handle (opening.drop 1)) else none
  if !(isNamedHandle handle || handle == ['!']) || !nextIs isSpace r then none
  let (start, rest) ← tagText1 true (skip isSpace r)
  if gapNext rest then some (.tagPrefix handle (beforeNul start), rest) else none

/-- Takes a directive after its percent sign, and the rest of its line. -/
def directive (s : List Glyph) : Option (Token × List Glyph) := do
  let name := takeText isNameChar s
  let r := skip isNameChar s
  if !gapNext r then none
  let (token, rest) ←
    if name == "YAML".toList then versionDirective r
    else if name == "TAG".toList then tagDirective r
    else none
  return (token, ← lineEnd? rest)

end DeviceFleet.Yaml
