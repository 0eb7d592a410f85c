/-
# Layout

How a text falls into tokens.  Outside flow collections the column of a token opens and closes
blocks: an item or a key further right than the innermost block opens one, and a token further
left closes those that start right of it.  A node becomes a key only when a colon follows it on
its line, so the tokens of the key and of the block that it opens are put in before it then.
-/
import DeviceFleet.Yaml.Token

namespace DeviceFleet.Yaml

/-- A node that becomes a key if a colon follows it. -/
structure Candidate where
  /-- How many tokens there are before it. -/
  before : Nat
  /-- Its line. -/
  line : Nat
  /-- Its column. -/
  column : Nat
  /-- The number of bytes before it on its line. -/
  offset : Nat
  /-- Whether nothing but a key can stand there. -/
  required : Bool
deriving DecidableEq, Repr

/-- How many bytes the colon of a key may be from its start. -/
def keyLimit : Nat := 1024

/-- Whether the candidate is still one where the next character stands. -/
def Candidate.isLive (c : Candidate) (next : Glyph) : Bool :=
  c.line == next.line && next.offset ≤ c.offset + keyLimit

/-- What is known after a part of the text. -/
structure Layout where
  /-- The rest of the text. -/
  rest : List Glyph
  /-- The tokens so far, latest first. -/
  tokens : List Token := []
  /-- The columns of the open blocks, innermost first. -/
  blocks : List Nat := []
  /-- The candidate of the innermost flow collection, or outside all of them. -/
  candidate : Option Candidate := none
  /-- The candidates around each open flow collection, innermost first. -/
  outer : List (Option Candidate) := []
  /-- Whether a key may start here. -/
  keyAllowed : Bool := true
deriving Repr

namespace Layout

/-- Whether a flow collection is open. -/
def inFlow (l : Layout) : Bool := !l.outer.isEmpty

/-- The layout with one more token. -/
def put (l : Layout) (t : Token) : Layout := { l with tokens := t :: l.tokens }

/-- The layout without so many characters at the start of its rest. -/
def drop (l : Layout) (n : Nat) : Layout := { l with rest := l.rest.drop n }

/-- The layout with a token put in after the first `before` ones. -/
def putAfter (l : Layout) (before : Nat) (t : Token) : Layout :=
  let later := l.tokens.length - before
  { l with tokens := l.tokens.take later ++ t :: l.tokens.drop later }

/-! ## Blocks -/

/-- Whether a block at that column lies inside the innermost open one. -/
def opensBlock (l : Layout) (column : Nat) : Bool :=
  !l.inFlow && l.blocks.head?.all (· < column)

/-- Opens a block of which `t` tells the kind, unless one is open at that column. -/
def openBlock (l : Layout) (before column : Nat) (t : Token) : Layout :=
  if l.opensBlock column then
    let opened := l.putAfter before t
    { opened with blocks := column :: l.blocks }
  else l

/-- Closes the blocks whose column satisfies `p`, from the innermost on. -/
def closeBlocks (l : Layout) (p : Nat → Bool) : Layout :=
  if l.inFlow then l
  else
    { l with
      tokens := (l.blocks.takeWhile p).map (fun _ => Token.blockEnd) ++ l.tokens
      blocks := l.blocks.dropWhile p }

/-! ## Candidates for keys -/

/-- Gives the candidate up, unless it had to become a key. -/
def dropCandidate (l : Layout) : Option Layout :=
  match l.candidate with
  | some c => if c.required then none else some { l with candidate := none }
  | none => some l

/-- Makes the next node the candidate, if a key may start here. -/
def setCandidate (l : Layout) (next : Glyph) : Option Layout :=
  if l.keyAllowed then
    l.dropCandidate.map fun l =>
      { l with
        candidate := some {
          before := l.tokens.length
          line := next.line
          column := next.column
          offset := next.offset
          required := !l.inFlow && l.blocks.head? == some next.column } }
  else some l

/-! ## Tokens -/

/-- Takes a mark of the document or a directive, which ends all blocks. -/
def documentToken (l : Layout) (t : Token) (rest : List Glyph) : Option Layout :=
  (l.closeBlocks fun _ => true).dropCandidate.map fun l =>
    { l.put t with rest, keyAllowed := false }

/-- Takes the start of a flow collection, which may itself be a key. -/
def openFlow (l : Layout) (next : Glyph) (t : Token) : Option Layout :=
  (l.setCandidate next).map fun l =>
    { (l.put t).drop 1 with
      candidate := none
      outer := l.candidate :: l.outer
      keyAllowed := true }

/-- Takes the end of a flow collection. -/
def closeFlow (l : Layout) (t : Token) : Option Layout :=
  l.dropCandidate.map fun l =>
    { (l.put t).drop 1 with
      candidate := l.outer.head?.getD l.candidate
      outer := l.outer.drop 1
      keyAllowed := false }

/-- Takes a comma. -/
def comma (l : Layout) : Option Layout :=
  l.dropCandidate.map fun l => { (l.put .comma).drop 1 with keyAllowed := true }

/-- Takes the dash of an item, which may open a block sequence. -/
def item (l : Layout) (next : Glyph) : Option Layout :=
  if l.inFlow || l.keyAllowed then
    (l.openBlock l.tokens.length next.column .blockSequence).dropCandidate.map fun l =>
      { (l.put .item).drop 1 with keyAllowed := true }
  else none

/-- Takes the mark of a key, which may open a block mapping. -/
def keyMark (l : Layout) (next : Glyph) : Option Layout :=
  if l.inFlow || l.keyAllowed then
    (l.openBlock l.tokens.length next.column .blockMapping).dropCandidate.map fun l =>
      { (l.put .key).drop 1 with keyAllowed := !l.inFlow }
  else none

/-- Takes a colon after a candidate, which becomes a key and may open a block mapping. -/
def colonAfter (l : Layout) (c : Candidate) : Layout :=
  let keyed := (l.putAfter c.before .key).openBlock c.before c.column .blockMapping
  { (keyed.put .value).drop 1 with candidate := none, keyAllowed := false }

/-- Takes a colon with no key on its line. -/
def loneColon (l : Layout) (next : Glyph) : Option Layout :=
  if l.inFlow || l.keyAllowed then
    let opened := l.openBlock l.tokens.length next.column .blockMapping
    some { (opened.put .value).drop 1 with keyAllowed := !l.inFlow }
  else none

/-- Takes a colon. -/
def colon (l : Layout) (next : Glyph) : Option Layout :=
  match l.candidate with
  | none => l.loneColon next
  | some c =>
    if c.isLive next then some (l.colonAfter c)
    else l.dropCandidate.bind (·.loneColon next)

/-- Takes a name, a tag or a quoted scalar, with which a key may start; `lexing` is what the token
and the rest are. -/
def keyPart (l : Layout) (next : Glyph) (lexing : Option (Token × List Glyph)) : Option Layout :=
  match l.setCandidate next, lexing with
  | some l, some (t, rest) => some { l.put t with rest, keyAllowed := false }
  | _, _ => none

/-- Takes a plain scalar; after a line break at its end a key may start. -/
def plainScalar (l : Layout) (next : Glyph) : Option Layout :=
  let indent := match l.blocks with
    | [] => 0
    | column :: _ => column + 1
  match l.setCandidate next, plain l.inFlow indent l.rest with
  | some l, some (scalar, rest) =>
    some { l.put (.scalar true scalar.text) with rest, keyAllowed := scalar.broken }
  | _, _ => none

/-- Takes a block scalar. -/
def block (l : Layout) (literal : Bool) : Option Layout :=
  match l.dropCandidate, blockScalar literal l.blocks.head? (l.rest.drop 1) with
  | some l, some (text, rest) => some { l.put (.scalar false text) with rest, keyAllowed := true }
  | _, _ => none

/-- A lexing as a token. -/
def lexed {α : Type} (token : α → Token) : Lexing α → Option (Token × List Glyph)
  | none => none
  | some (a, rest) => some (token a, rest)

/-- Whether a plain scalar may start with a character before `r`. -/
def startsPlain (inFlow : Bool) (c : Char) (r : List Glyph) : Bool :=
  !(isGap c || "-?:,[]\x7b\x7d#&*!|>'\"%@`".toList.contains c) || c == '-' ||
    (!inFlow && (c == '?' || c == ':') && !gapNext r)

/-- Takes the next token, which starts with `next`. -/
def token (l : Layout) (next : Glyph) (r : List Glyph) : Option Layout :=
  let c := next.char
  let separate := l.inFlow || gapNext r
  if next.column == 0 && c == '%' then
    match directive r with
    | none => none
    | some (t, rest) => l.documentToken t rest
  else if startMarkNext l.rest then l.documentToken .documentStart (l.rest.drop 3)
  else if endMarkNext l.rest then l.documentToken .documentEnd (l.rest.drop 3)
  else if c == '[' then l.openFlow next .flowSequence
  else if c == '\x7b' then l.openFlow next .flowMapping
  else if c == ']' then l.closeFlow .flowSequenceEnd
  else if c == '\x7d' then l.closeFlow .flowMappingEnd
  else if c == ',' then l.comma
  else if c == '-' && gapNext r then l.item next
  else if c == '?' && separate then l.keyMark next
  else if c == ':' && separate then l.colon next
  else if c == '*' then l.keyPart next (lexed .alias (anchorName r))
  else if c == '&' then l.keyPart next (lexed .anchor (anchorName r))
  else if c == '!' then l.keyPart next (lexed .tag (writtenTag l.inFlow r))
  else if c == '|' && !l.inFlow then l.block true
  else if c == '>' && !l.inFlow then l.block false
  else if c == '\'' then l.keyPart next (lexed (.scalar false) (singleQuoted r))
  else if c == '"' then l.keyPart next (lexed (.scalar false) (doubleQuoted r))
  else if startsPlain l.inFlow c r then l.plainScalar next
  else none

/-! ## Whole texts -/

/-- Passes blanks, line breaks and comments, and a byte order mark at the start of a line.  A tab
is passed where no key may start; a key may start on the next line outside flow collections. -/
def skipGap (inFlow inComment keyAllowed : Bool) : List Glyph → Bool × List Glyph
  | [] => (keyAllowed, [])
  | g :: r =>
    if isBreak g.char then skipGap inFlow false (keyAllowed || !inFlow) r
    else if inComment || g.char == '#' then skipGap inFlow true keyAllowed r
    else if g.char == ' ' || (g.char == '\t' && (inFlow || !keyAllowed)) ||
        (g.char == '\ufeff' && g.column == 0) then
      skipGap inFlow false keyAllowed r
    else (keyAllowed, g :: r)

/-- The layout with the gap before the next token passed. -/
def atToken (l : Layout) : Layout :=
  let (keyAllowed, rest) := skipGap l.inFlow false l.keyAllowed l.rest
  { l with rest, keyAllowed }

/-- The tokens of the whole text. -/
def finish (l : Layout) : Option (List Token) :=
  let here := l.atToken
  match here.rest with
  | [] => ((here.closeBlocks fun _ => true).dropCandidate).map (·.tokens.reverse)
  | g :: r =>
    match (here.closeBlocks (g.column < ·)).token g r with
    | none => none
    | some next =>
      -- A token takes at least one character, so the rest does get shorter.
      if next.rest.length < l.rest.length then next.finish else none
termination_by l.rest.length

end Layout

/-- The tokens of a text, unless it is malformed. -/
def tokens? (text : List Char) : Option (List Token) :=
  match glyphs? text with
  | none => none
  | some rest => Layout.finish { rest }

end DeviceFleet.Yaml
