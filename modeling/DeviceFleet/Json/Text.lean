/-
# Strings in JSON

Writing escapes the quote, the backslash and the control characters below U+0020; every other
character stands for itself.  Reading takes the body of a string, after its opening quote, up to
its closing quote.  A code point beyond U+FFFF may be escaped as a surrogate pair.
-/
import DeviceFleet.Json.Failure

namespace DeviceFleet.Json

open DeviceFleet.Text

/-! ## Writing -/

/-- One character inside a string. -/
def escapeChar (c : Char) : List Char :=
  if c = '"' then ['\\', '"']
  else if c = '\\' then ['\\', '\\']
  else if c = '\x08' then ['\\', 'b']
  else if c = '\x0c' then ['\\', 'f']
  else if c = '\n' then ['\\', 'n']
  else if c = '\r' then ['\\', 'r']
  else if c = '\t' then ['\\', 't']
  else if c.toNat < 0x20 then '\\' :: 'u' :: toHexPadded 4 c.toNat
  else [c]

/-- A string between quotes. -/
def writeText (s : List Char) : List Char := '"' :: s.flatMap escapeChar ++ ['"']

/-! ## Reading -/

/-- The bytes of a text in UTF-8. -/
def byteLength (s : List Char) : Nat := s.foldr (fun c n => c.utf8Size + n) 0

/-- The number that the next four bytes spell in hexadecimal. -/
def readHex4 (s : List Char) : Reading Nat :=
  if byteLength s < 4 then failAt .endInText []
  else
    match s with
    | a :: b :: c :: d :: r =>
      match ofHex4? a b c d with
      | some n => .ok (n, r)
      | none => .error ⟨.invalidEscape, s, 4⟩
    | _ => .error ⟨.invalidEscape, s, 4⟩

/-- The first half of a surrogate pair. -/
def isLeadingSurrogate (n : Nat) : Bool := 0xD800 ≤ n && n ≤ 0xDBFF

/-- The second half of a surrogate pair. -/
def isTrailingSurrogate (n : Nat) : Bool := 0xDC00 ≤ n && n ≤ 0xDFFF

/-- The second half of a surrogate pair, with the backslash and letter before it. -/
def readTrailingSurrogate (s : List Char) : Reading Nat :=
  match s with
  | [] => failAt .endInText s
  | '\\' :: 'u' :: r =>
    match readHex4 r with
    | .error e => .error e
    | .ok (n, rest) =>
      if isTrailingSurrogate n then .ok (n, rest) else failAt .loneSurrogate rest
  | ['\\'] => failAt .endInText []
  | '\\' :: r => failNext .unexpectedEndOfEscape r
  | s => failNext .unexpectedEndOfEscape s

/-- The character that an escape with four hexadecimal digits, or a pair of them, stands for. -/
def readCodePoint (s : List Char) : Reading Char :=
  match readHex4 s with
  | .error e => .error e
  | .ok (n, rest) =>
    if isTrailingSurrogate n then failAt .loneSurrogate rest
    else if isLeadingSurrogate n then
      match readTrailingSurrogate rest with
      | .error e => .error e
      | .ok (m, rest) => .ok (Char.ofNat (0x10000 + (n - 0xD800) * 0x400 + (m - 0xDC00)), rest)
    else .ok (Char.ofNat n, rest)

/-- The character that an escape stands for, after its backslash. -/
def readEscape (s : List Char) : Reading Char :=
  match s with
  | [] => failAt .endInText s
  | '"' :: r => .ok ('"', r)
  | '\\' :: r => .ok ('\\', r)
  | '/' :: r => .ok ('/', r)
  | 'b' :: r => .ok ('\x08', r)
  | 'f' :: r => .ok ('\x0c', r)
  | 'n' :: r => .ok ('\n', r)
  | 'r' :: r => .ok ('\r', r)
  | 't' :: r => .ok ('\t', r)
  | 'u' :: r => readCodePoint r
  | s => failNext .invalidEscape s

theorem length_readHex4 {s r : List Char} {n : Nat} (h : readHex4 s = .ok (n, r)) :
    r.length < s.length := by
  unfold readHex4 at h
  split at h
  · cases h
  · split at h
    · split at h
      · cases h; simp only [List.length_cons]; omega
      · cases h
    · cases h

theorem length_readTrailingSurrogate {s r : List Char} {n : Nat}
    (h : readTrailingSurrogate s = .ok (n, r)) : r.length < s.length := by
  unfold readTrailingSurrogate at h
  split at h
  · cases h
  · split at h
    · cases h
    · next h4 =>
      have := length_readHex4 h4
      split at h
      · cases h; simp only [List.length_cons]; omega
      · cases h
  · cases h
  · cases h
  · cases h

theorem length_readCodePoint {s r : List Char} {c : Char} (h : readCodePoint s = .ok (c, r)) :
    r.length < s.length := by
  unfold readCodePoint at h
  split at h
  · cases h
  · next h4 =>
    have := length_readHex4 h4
    split at h
    · cases h
    · split at h
      · split at h
        · cases h
        · next ht =>
          have := length_readTrailingSurrogate ht
          obtain ⟨-, rfl⟩ := Prod.mk.inj (Except.ok.inj h)
          exact Nat.lt_trans this ‹_›
      · obtain ⟨-, rfl⟩ := Prod.mk.inj (Except.ok.inj h)
        assumption

theorem length_readEscape {s r : List Char} {c : Char} (h : readEscape s = .ok (c, r)) :
    r.length < s.length := by
  unfold readEscape at h
  split at h
  case h_1 => cases h
  case h_10 =>
    have := length_readCodePoint h
    simp only [List.length_cons]
    omega
  case h_11 => cases h
  all_goals
    obtain ⟨-, rfl⟩ := Prod.mk.inj (Except.ok.inj h)
    exact Nat.lt_succ_self _

/-- The body of a string, after its opening quote; `read` is what was read of it, backwards. -/
def readBodyFrom (read : List Char) (s : List Char) : Reading (List Char) :=
  match s with
  | [] => failAt .endInText s
  | c :: r =>
    if c = '"' then .ok (read.reverse, r)
    else if c = '\\' then
      match h : readEscape r with
      | .error e => .error e
      | .ok (d, rest) =>
        have : rest.length < r.length := length_readEscape h
        readBodyFrom (d :: read) rest
    else if c.toNat < 0x20 then failNext .controlCharacter s
    else readBodyFrom (c :: read) r
termination_by s.length

/-- The body of a string, after its opening quote. -/
def readBody (s : List Char) : Reading (List Char) := readBodyFrom [] s

theorem length_readBodyFrom {read s r : List Char} {t : List Char}
    (h : readBodyFrom read s = .ok (t, r)) : r.length < s.length := by
  fun_induction readBodyFrom read s with
  | case1 => cases h
  | case2 => cases h; simp
  | case3 => cases h
  | case4 _ _ _ _ _ _ hlt ih =>
    have := ih h
    simp only [List.length_cons]
    omega
  | case5 => cases h
  | case6 _ _ _ _ _ _ ih =>
    have := ih h
    simp only [List.length_cons]
    omega

theorem length_readBody {s r : List Char} {t : List Char} (h : readBody s = .ok (t, r)) :
    r.length < s.length :=
  length_readBodyFrom h

/-! ## Passing over a string -/

/-- Passes over an escape, after its backslash; surrogates need not be paired. -/
def skipEscape (s : List Char) : Except Failure (List Char) :=
  match s with
  | [] => failAt .endInText s
  | c :: r =>
    if c = 'u' then (readHex4 r).map Prod.snd
    else if ['"', '\\', '/', 'b', 'f', 'n', 'r', 't'].contains c then .ok r
    else failNext .invalidEscape s

theorem length_skipEscape {s r : List Char} (h : skipEscape s = .ok r) :
    r.length < s.length := by
  unfold skipEscape at h
  split at h
  · cases h
  · next t =>
    split at h
    · cases h4 : readHex4 t with
      | error e => simp [h4, Except.map] at h
      | ok p =>
        have := length_readHex4 h4
        simp only [h4, Except.map] at h
        cases h
        simp only [List.length_cons]
        omega
    · split at h
      · cases h; simp
      · cases h

/-- Passes over the body of a string, after its opening quote. -/
def skipBody (s : List Char) : Except Failure (List Char) :=
  match s with
  | [] => failAt .endInText s
  | c :: r =>
    if c = '"' then .ok r
    else if c = '\\' then
      match h : skipEscape r with
      | .error e => .error e
      | .ok rest =>
        have : rest.length < r.length := length_skipEscape h
        skipBody rest
    else if c.toNat < 0x20 then failAt .controlCharacter s
    else skipBody r
termination_by s.length

theorem length_skipBody {s r : List Char} (h : skipBody s = .ok r) : r.length < s.length := by
  fun_induction skipBody s with
  | case1 => cases h
  | case2 => cases h; simp
  | case3 => cases h
  | case4 _ _ _ _ hlt ih =>
    have := ih h
    simp only [List.length_cons]
    omega
  | case5 => cases h
  | case6 _ _ _ _ _ ih =>
    have := ih h
    simp only [List.length_cons]
    omega

end DeviceFleet.Json
