/-
# Scalars

The text of a scalar in each of its five styles.  In the plain and the quoted styles a gap with
line breaks is folded: a single line feed stands for a blank, and of several the first is left
out.  A block scalar keeps its lines or folds those that neither start with a blank nor follow
one that does.
-/
import DeviceFleet.Text.Hexadecimal
import DeviceFleet.Yaml.Glyph

namespace DeviceFleet.Yaml

/-- A text and what is left after it, unless the text is malformed. -/
abbrev Lexing (α : Type) : Type := Option (α × List Glyph)

/-! ## Folding -/

/-- What line breaks in a row stand for. -/
def foldBreaks : List Char → List Char
  | ['\n'] => [' ']
  | '\n' :: breaks => breaks
  | breaks => breaks

/-- What a gap between words stands for. -/
def gapText (gap : List Char) : List Char :=
  let breaks := gap.filter isBreak
  if breaks.isEmpty then gap else foldBreaks breaks

/-! ## Plain scalars -/

/-- Takes a word of a plain scalar: it ends before a gap, before a colon with a gap after it, and
inside a flow collection before a comma or bracket. -/
def plainWord (inFlow : Bool) : List Glyph → Lexing (List Char)
  | [] => some ([], [])
  | g :: r =>
    if isGap g.char then some ([], g :: r)
    else if inFlow && g.char == ':' && nextIs (",?[]\x7b\x7d".toList.contains ·) r then none
    else if g.char == ':' && gapNext r then some ([], g :: r)
    else if inFlow && ",[]\x7b\x7d".toList.contains g.char then some ([], g :: r)
    else
      match plainWord inFlow r with
      | none => none
      | some (word, rest) => some (g.char :: word, rest)

theorem length_plainWord {inFlow : Bool} {s r : List Glyph} {word : List Char}
    (h : plainWord inFlow s = some (word, r)) : r.length + word.length = s.length := by
  induction s generalizing word r with
  | nil => cases h; rfl
  | cons g t ih =>
    rw [plainWord] at h
    split at h
    · cases h; rfl
    · split at h
      · cases h
      · split at h
        · cases h; rfl
        · split at h
          · cases h; rfl
          · split at h
            · cases h
            · next hw =>
              cases h
              have := ih hw
              simp only [List.length_cons]
              omega

/-- Whether a tab stands in the indentation of one of the lines that a gap starts. -/
def tabIntrudes (indent : Nat) (gap : List Glyph) : Bool :=
  (skip (!isBreak ·) gap).any fun g => g.char == '\t' && g.column < indent

/-- The column of what comes next. -/
def columnOf : List Glyph → Nat
  | [] => 0
  | g :: _ => g.column

/-- A plain scalar. -/
structure Plain where
  /-- Its text; none if no word could be taken. -/
  text : List Char
  /-- Whether a line break follows its last word. -/
  broken : Bool
deriving DecidableEq, Repr

/-- Takes the words of a plain scalar with the gaps between them, and the gap after the last.
Outside flow collections, lines from the second on are indented to the given column at least. -/
def plain (inFlow : Bool) (indent : Nat) (s : List Glyph) : Lexing Plain :=
  if documentMarkNext s || nextIs (· == '#') s then some (⟨[], false⟩, s)
  else
    match hw : plainWord inFlow s with
    | none => none
    | some ([], r) => some (⟨[], false⟩, r)
    | some (c :: word, r) =>
      have : (skip isGap r).length < s.length := by
        have h1 := length_plainWord hw
        have h2 := length_skip_le isGap r
        simp only [List.length_cons] at h1
        omega
      let gap := r.takeWhile fun g => isGap g.char
      let broken := gap.any fun g => isBreak g.char
      if gap.isEmpty then some (⟨c :: word, false⟩, r)
      else if tabIntrudes indent gap then none
      else if !inFlow && columnOf (skip isGap r) < indent then
        some (⟨c :: word, broken⟩, skip isGap r)
      else
        match plain inFlow indent (skip isGap r) with
        | none => none
        | some (⟨[], _⟩, rest) => some (⟨c :: word, broken⟩, rest)
        | some (⟨more, broken⟩, rest) =>
          some (⟨c :: word ++ gapText (gap.map (·.char)) ++ more, broken⟩, rest)
termination_by s.length

/-! ## Quoted scalars -/

/-- Puts text before the text of a lexing. -/
def Lexing.before (text : List Char) : Lexing (List Char) → Lexing (List Char)
  | none => none
  | some (more, rest) => some (text ++ more, rest)

/-- Takes the inside of a scalar in single quotes, and the quote after it; two quotes in a row
stand for one. -/
def singleQuoted : List Glyph → Lexing (List Char)
  | [] => none
  | g :: r =>
    if documentMarkNext (g :: r) then none
    else if isGap g.char then
      have : (skip isGap r).length < r.length + 1 := Nat.lt_succ_of_le (length_skip_le isGap r)
      Lexing.before (gapText (g.char :: takeText isGap r)) (singleQuoted (skip isGap r))
    else if g.char = '\'' then
      match r with
      | [] => some ([], [])
      | h :: t => if h.char = '\'' then Lexing.before ['\''] (singleQuoted t) else some ([], h :: t)
    else Lexing.before [g.char] (singleQuoted r)
termination_by s => s.length

/-- The character that a number names, if it names one. -/
def charOfCode? (n : Nat) : Option Char :=
  if h : n.isValidChar then some (Char.ofNatAux n h) else none

/-- The number that hexadecimal digits spell. -/
def codeOf? (digits : List Char) : Option Nat :=
  digits.foldlM (fun n c => (Text.hexValue? c).map (n * 16 + ·)) 0

/-- The character that so many hexadecimal digits name. -/
def codeEscape (count : Nat) (s : List Glyph) : Option (Char × Nat) := do
  let digits := (s.take count).map (·.char)
  if digits.length = count then return (← charOfCode? (← codeOf? digits), count) else none

/-- What the escape with the given letter stands for, and how many of the characters after the
letter it takes. -/
def escape (letter : Char) (s : List Glyph) : Option (Char × Nat) :=
  match letter with
  | '0' => some ('\x00', 0)
  | 'a' => some ('\x07', 0)
  | 'b' => some ('\x08', 0)
  | 't' | '\t' => some ('\t', 0)
  | 'n' => some ('\n', 0)
  | 'v' => some ('\x0b', 0)
  | 'f' => some ('\x0c', 0)
  | 'r' => some ('\r', 0)
  | 'e' => some ('\x1b', 0)
  | ' ' | '"' | '/' | '\\' => some (letter, 0)
  | 'N' => some ('\u0085', 0)
  | '_' => some ('\u00a0', 0)
  | 'L' => some ('\u2028', 0)
  | 'P' => some ('\u2029', 0)
  | 'x' => codeEscape 2 s
  | 'u' => codeEscape 4 s
  | 'U' => codeEscape 8 s
  | _ => none

/-- Takes the inside of a scalar in double quotes, and the quote after it.  A backslash at the end
of a line takes that line break away, and the blanks of the gap with it. -/
def doubleQuoted : List Glyph → Lexing (List Char)
  | [] => none
  | g :: r =>
    if documentMarkNext (g :: r) then none
    else if isGap g.char then
      have : (skip isGap r).length < r.length + 1 := Nat.lt_succ_of_le (length_skip_le isGap r)
      Lexing.before (gapText (g.char :: takeText isGap r)) (doubleQuoted (skip isGap r))
    else if g.char = '"' then some ([], r)
    else if g.char = '\\' then
      match r with
      | [] => none
      | h :: t =>
        if isBreak h.char then
          have : (skip isGap t).length < t.length + 1 + 1 :=
            Nat.lt_succ_of_le (Nat.le_succ_of_le (length_skip_le isGap t))
          Lexing.before ((takeText isGap t).filter isBreak) (doubleQuoted (skip isGap t))
        else
          match escape h.char t with
          | none => none
          | some (c, taken) => Lexing.before [c] (doubleQuoted (t.drop taken))
    else Lexing.before [g.char] (doubleQuoted r)
termination_by s => s.length

/-! ## Block scalars -/

/-- What becomes of the line breaks after the last line of a block scalar. -/
inductive Chomping where
  /-- None stays. -/
  | strip
  /-- The first stays. -/
  | clip
  /-- All stay. -/
  | keep
deriving DecidableEq, Repr

/-- The mark of a chomping. -/
def chomping? : List Glyph → Lexing Chomping
  | [] => none
  | g :: r =>
    if g.char = '+' then some (.keep, r) else if g.char = '-' then some (.strip, r) else none

/-- The mark of an indentation: a digit that is not zero. -/
def indentation? : List Glyph → Lexing Nat
  | [] => none
  | g :: r =>
    if g.char.isDigit && g.char != '0' then some (g.char.toNat - '0'.toNat, r) else none

/-- The marks in the first line of a block scalar, in either order. -/
def blockMarks (s : List Glyph) : (Chomping × Option Nat) × List Glyph :=
  match chomping? s with
  | some (chomping, r) =>
    match indentation? r with
    | some (n, t) => ((chomping, some n), t)
    | none => ((chomping, none), r)
  | none =>
    match indentation? s with
    | some (n, r) =>
      match chomping? r with
      | some (chomping, t) => ((chomping, some n), t)
      | none => ((.clip, some n), r)
    | none => ((.clip, none), s)

/-- What is left of the line after blanks and a comment, if nothing else is on it. -/
def lineEnd? (s : List Glyph) : Option (List Glyph) :=
  let t := skip isSpace s
  let rest := if nextIs (· == '#') t then skip (!isBreak ·) t else t
  match rest with
  | [] => some []
  | g :: r => if isBreak g.char then some r else none

/-- Passes the lines of a block scalar that are empty and the indentation of the next; the
indentation ends at the column `limit`, if that is known.  Answers with the breaks of the lines
and the deepest column reached. -/
def blockBreaks (limit : Option Nat) (deepest : Nat) :
    List Glyph → Lexing (List Char × Nat)
  | [] => some (([], deepest), [])
  | g :: r =>
    let inside := limit.all (g.column < ·)
    if inside && g.char == ' ' then blockBreaks limit (max deepest (g.column + 1)) r
    else if inside && g.char == '\t' then none
    else if isBreak g.char then
      match blockBreaks limit deepest r with
      | none => none
      | some ((breaks, column), rest) => some ((g.char :: breaks, column), rest)
    else some (([], deepest), g :: r)

theorem length_blockBreaks {limit : Option Nat} {deepest : Nat} {s r : List Glyph}
    {found : List Char × Nat} (h : blockBreaks limit deepest s = some (found, r)) :
    r.length ≤ s.length := by
  induction s generalizing deepest found r with
  | nil => cases h; exact Nat.le_refl _
  | cons g t ih =>
    simp only [blockBreaks] at h
    split at h
    · exact Nat.le_succ_of_le (ih h)
    · split at h
      · cases h
      · split at h
        · split at h
          · cases h
          · next hb =>
            cases h
            exact Nat.le_succ_of_le (ih hb)
        · cases h
          exact Nat.le_refl _

/-- How a block scalar is read. -/
structure BlockStyle where
  /-- Whether all line breaks are kept. -/
  literal : Bool
  /-- What becomes of the last line breaks. -/
  chomping : Chomping
  /-- The column at which its lines start. -/
  indent : Nat
deriving DecidableEq, Repr

/-- What stands for the break before a line: nothing or a blank where it is folded. -/
def BlockStyle.joint (style : BlockStyle) (lastBreak : List Char) (afterBlank beforeBlank : Bool)
    (breaks : List Char) : List Char :=
  if !style.literal && lastBreak == ['\n'] && !afterBlank && !beforeBlank then
    if breaks.isEmpty then [' '] else []
  else lastBreak

/-- What stays of the breaks after the last line. -/
def BlockStyle.ending (style : BlockStyle) (lastBreak breaks : List Char) : List Char :=
  match style.chomping with
  | .strip => []
  | .clip => lastBreak
  | .keep => lastBreak ++ breaks

/-- Takes the lines of a block scalar, given the break after the last line, whether that line
started with a blank, and the breaks of the empty lines since. -/
def blockLines (style : BlockStyle) (lastBreak : List Char) (afterBlank : Bool)
    (breaks : List Char) : List Glyph → Lexing (List Char)
  | [] => some (style.ending lastBreak breaks, [])
  | g :: r =>
    if g.column = style.indent then
      match hb : blockBreaks (some style.indent) 0 ((skip (!isBreak ·) r).drop 1) with
      | none => none
      | some ((nextBreaks, _), rest) =>
        have shorter : rest.length < r.length + 1 := by
          have h1 := length_blockBreaks hb
          have h2 := length_skip_le (!isBreak ·) r
          rw [List.length_drop] at h1
          omega
        let beforeBlank := isSpace g.char
        let nextBreak := ((skip (!isBreak ·) r).take 1).map (·.char)
        let line := g.char :: takeText (!isBreak ·) r
        Lexing.before (style.joint lastBreak afterBlank beforeBlank breaks ++ breaks ++ line)
          (blockLines style nextBreak beforeBlank nextBreaks rest)
    else some (style.ending lastBreak breaks, g :: r)
termination_by s => s.length
decreasing_by exact shorter

/-- The least column at which the lines of a block scalar inside a block at the given column may
start. -/
def leastIndent : Option Nat → Nat
  | none => 1
  | some column => column + 1

/-- Takes a block scalar after its indicator, inside a block at the given column. -/
def blockScalar (literal : Bool) (parent : Option Nat) (s : List Glyph) : Lexing (List Char) :=
  let ((chomping, depth), header) := blockMarks s
  match lineEnd? header with
  | none => none
  | some body =>
    let limit := depth.map (parent.getD 0 + ·)
    match blockBreaks limit 0 body with
    | none => none
    | some ((breaks, deepest), rest) =>
      let indent := limit.getD (max deepest (leastIndent parent))
      blockLines ⟨literal, chomping, indent⟩ [] false breaks rest

end DeviceFleet.Yaml
