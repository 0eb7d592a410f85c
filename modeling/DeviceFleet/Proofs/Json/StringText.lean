/-
# The texts of strings

Between its quotes a string is a sequence of pieces: characters, as they are or with a backslash and
a letter, and units, given by four hexadecimal digits.  `assemble` says which text the pieces spell:
a unit may be a character of its own, two halves of a surrogate pair are one character, and a half
without the other spells nothing.  A string is read as the text that its pieces spell, and refused
if they spell none (`readBody_pieces`), while passing over a string takes any pieces
(`skipBody_pieces`).
-/
import DeviceFleet.Proofs.Json.Reading
import DeviceFleet.Proofs.Json.ScalarLocality
import Mathlib.Data.List.Forall2

namespace DeviceFleet.Json

open DeviceFleet.Text

variable {s r : List Char} {parts : List (List Char)}

/-- The letters after a backslash, with the characters that they stand for. -/
def letterEscapes : List (Char × Char) :=
  [('"', '"'), ('\\', '\\'), ('/', '/'), ('b', '\x08'), ('f', '\x0c'), ('n', '\n'), ('r', '\r'),
    ('t', '\t')]

/-- A piece of a string. -/
inductive Piece where
  /-- A character. -/
  | char (c : Char)
  /-- A unit, which may be half of a surrogate pair. -/
  | unit (n : Nat)

/-- The ways in which a piece stands in a string. -/
inductive PieceText : Piece → List Char → Prop
  | plain {c : Char} (hquote : c ≠ '"') (hslash : c ≠ '\\') (hcontrol : ¬ c.toNat < 0x20) :
      PieceText (.char c) [c]
  | letter {l c : Char} (hl : (l, c) ∈ letterEscapes) : PieceText (.char c) ['\\', l]
  | code {a b c d : Char} {n : Nat} (hn : ofHex4? a b c d = some n) :
      PieceText (.unit n) ['\\', 'u', a, b, c, d]

/-- The character that a surrogate pair stands for. -/
def pairedChar (lead trail : Nat) : Char :=
  Char.ofNat (0x10000 + (lead - 0xD800) * 0x400 + (trail - 0xDC00))

/-- The text that pieces spell, if they spell one. -/
def assemble : List Piece → Option (List Char)
  | [] => some []
  | .char c :: pieces => (assemble pieces).map (c :: ·)
  | .unit n :: pieces =>
    if isTrailingSurrogate n then none
    else if isLeadingSurrogate n then
      match pieces with
      | .unit m :: pieces =>
        if isTrailingSurrogate m then (assemble pieces).map (pairedChar n m :: ·) else none
      | _ => none
    else (assemble pieces).map (Char.ofNat n :: ·)

/-- The texts of a string whose pieces spell the given text, or none. -/
inductive StringText : Option String → List Char → Prop
  | mk {pieces : List Piece} {parts : List (List Char)}
      (hparts : List.Forall₂ PieceText pieces parts) :
      StringText ((assemble pieces).map String.ofList) ('"' :: (parts.flatten ++ ['"']))

/-- A unit that is no half of a surrogate pair is a character of its own. -/
lemma assemble_unit {n : Nat} (htrailing : isTrailingSurrogate n = false)
    (hleading : isLeadingSurrogate n = false) (pieces : List Piece) :
    assemble (.unit n :: pieces) = (assemble pieces).map (Char.ofNat n :: ·) := by
  rcases pieces with - | ⟨- | -, pieces⟩ <;> simp [assemble, htrailing, hleading]

/-! ## Escapes -/

lemma readHex4_digits {a b c d : Char} {n : Nat} (hn : ofHex4? a b c d = some n)
    (s : List Char) : readHex4 (a :: b :: c :: d :: s) = .ok (n, s) := by
  rw [readHex4, if_neg (Nat.not_lt.mpr (four_le_byteLength a b c d s))]
  simp only [hn]

lemma readEscape_of_letter {l c : Char} (h : (l, c) ∈ letterEscapes) (s : List Char) :
    readEscape (l :: s) = .ok (c, s) := by
  simp only [letterEscapes, List.mem_cons, Prod.mk.injEq, List.not_mem_nil, or_false] at h
  rcases h with ⟨rfl, rfl⟩ | ⟨rfl, rfl⟩ | ⟨rfl, rfl⟩ | ⟨rfl, rfl⟩ | ⟨rfl, rfl⟩ | ⟨rfl, rfl⟩ |
    ⟨rfl, rfl⟩ | ⟨rfl, rfl⟩ <;> rfl

lemma skipEscape_of_letter {l c : Char} (h : (l, c) ∈ letterEscapes) (s : List Char) :
    skipEscape (l :: s) = .ok s := by
  simp only [letterEscapes, List.mem_cons, Prod.mk.injEq, List.not_mem_nil, or_false] at h
  rcases h with ⟨rfl, rfl⟩ | ⟨rfl, rfl⟩ | ⟨rfl, rfl⟩ | ⟨rfl, rfl⟩ | ⟨rfl, rfl⟩ | ⟨rfl, rfl⟩ |
    ⟨rfl, rfl⟩ | ⟨rfl, rfl⟩ <;> rfl

/-- No letter is that of a unit. -/
lemma ne_of_mem_letterEscapes {l c : Char} (h : (l, c) ∈ letterEscapes) : l ≠ 'u' := by
  rintro rfl
  simp [letterEscapes] at h

lemma readBodyFrom_of_escape {read : List Char} {c : Char} (h : readEscape s = .ok (c, r)) :
    readBodyFrom read ('\\' :: s) = readBodyFrom (c :: read) r := by
  rw [readBodyFrom, if_neg (by decide), if_pos rfl]
  split <;> simp_all

lemma readBodyFrom_of_escape_error {read : List Char} {e : Failure} (h : readEscape s = .error e) :
    readBodyFrom read ('\\' :: s) = .error e := by
  rw [readBodyFrom, if_neg (by decide), if_pos rfl]
  split <;> simp_all

lemma skipBody_of_escape (h : skipEscape s = .ok r) : skipBody ('\\' :: s) = skipBody r := by
  rw [skipBody, if_neg (by decide), if_pos rfl]
  split <;> simp_all

/-! ## Units -/

section Units

variable {a b c d : Char} {n : Nat}

lemma readEscape_unit (hn : ofHex4? a b c d = some n) (htrailing : isTrailingSurrogate n = false)
    (hleading : isLeadingSurrogate n = false) (s : List Char) :
    readEscape ('u' :: a :: b :: c :: d :: s) = .ok (Char.ofNat n, s) := by
  show readCodePoint (a :: b :: c :: d :: s) = _
  simp only [readCodePoint, readHex4_digits hn, htrailing, hleading, Bool.false_eq_true, if_false]

/-- A second half without a first is refused. -/
lemma exists_readEscape_trailing (hn : ofHex4? a b c d = some n)
    (htrailing : isTrailingSurrogate n = true) (s : List Char) :
    ∃ e, readEscape ('u' :: a :: b :: c :: d :: s) = .error e := by
  show ∃ e, readCodePoint (a :: b :: c :: d :: s) = .error e
  simp only [readCodePoint, readHex4_digits hn, htrailing, if_true]
  exact ⟨_, rfl⟩

lemma readEscape_leading (hn : ofHex4? a b c d = some n) (htrailing : isTrailingSurrogate n = false)
    (hleading : isLeadingSurrogate n = true) (s : List Char) :
    readEscape ('u' :: a :: b :: c :: d :: s) =
      match readTrailingSurrogate s with
      | .error e => .error e
      | .ok (m, rest) => .ok (pairedChar n m, rest) := by
  show readCodePoint (a :: b :: c :: d :: s) = _
  simp only [readCodePoint, readHex4_digits hn, htrailing, hleading, Bool.false_eq_true, if_false,
    if_true]
  rfl

lemma readTrailingSurrogate_unit (hn : ofHex4? a b c d = some n) (s : List Char) :
    readTrailingSurrogate ('\\' :: 'u' :: a :: b :: c :: d :: s) =
      if isTrailingSurrogate n then .ok (n, s) else failAt .loneSurrogate s := by
  simp only [readTrailingSurrogate, readHex4_digits hn]

/-- What follows a first half is no second half unless it is a unit. -/
lemma exists_readTrailingSurrogate_error (h : ∀ t, s ≠ '\\' :: 'u' :: t) :
    ∃ e, readTrailingSurrogate s = .error e := by
  unfold readTrailingSurrogate
  split
  · exact ⟨_, rfl⟩
  · next t => exact absurd rfl (h t)
  · exact ⟨_, rfl⟩
  · exact ⟨_, rfl⟩
  · exact ⟨_, rfl⟩

end Units

/-! ## Whole strings -/

variable {pieces : List Piece}

lemma readBodyFrom_char {c : Char} {part : List Char} (h : PieceText (.char c) part)
    (read s : List Char) : readBodyFrom read (part ++ s) = readBodyFrom (c :: read) s := by
  cases h with
  | plain hquote hslash hcontrol =>
    rw [List.singleton_append, readBodyFrom, if_neg hquote, if_neg hslash, if_neg hcontrol]
  | letter hl => exact readBodyFrom_of_escape (readEscape_of_letter hl s)

lemma skipBody_piece {p : Piece} {part : List Char} (h : PieceText p part) (s : List Char) :
    skipBody (part ++ s) = skipBody s := by
  cases h with
  | plain hquote hslash hcontrol =>
    rw [List.singleton_append, skipBody, if_neg hquote, if_neg hslash, if_neg hcontrol]
  | letter hl => exact skipBody_of_escape (skipEscape_of_letter hl s)
  | code hn =>
    refine skipBody_of_escape ?_
    show skipEscape ('u' :: _ :: _ :: _ :: _ :: s) = .ok s
    rw [skipEscape, if_pos rfl, readHex4_digits hn]
    rfl

/-- Passing over a string takes any pieces. -/
lemma skipBody_pieces (hparts : List.Forall₂ PieceText pieces parts) (rest : List Char) :
    skipBody (parts.flatten ++ '"' :: rest) = .ok rest := by
  induction hparts with
  | nil => rw [List.flatten_nil, List.nil_append, skipBody, if_pos rfl]
  | cons hpiece _ ih => rw [List.flatten_cons, List.append_assoc, skipBody_piece hpiece, ih]

/-- A unit stands as a backslash, a letter and four digits. -/
lemma exists_digits_of_unit {n : Nat} (hparts : List.Forall₂ PieceText (.unit n :: pieces) parts)
    (rest : List Char) : ∃ a b c d others, ofHex4? a b c d = some n ∧
      List.Forall₂ PieceText pieces others ∧
      parts.flatten ++ rest = '\\' :: 'u' :: a :: b :: c :: d :: (others.flatten ++ rest) := by
  cases hparts with
  | cons hpiece hparts =>
    cases hpiece with
    | code hn => exact ⟨_, _, _, _, _, hn, hparts, rfl⟩

/-- A string does not go on with a unit, unless the next piece is one. -/
lemma ne_unit_of_pieces (hparts : List.Forall₂ PieceText pieces parts)
    (hpieces : ∀ n ps, pieces ≠ .unit n :: ps) (rest t : List Char) :
    parts.flatten ++ '"' :: rest ≠ '\\' :: 'u' :: t := by
  cases hparts with
  | nil => simp
  | cons hpiece hparts =>
    cases hpiece with
    | plain hquote hslash hcontrol => simp [hslash]
    | letter hl => simp [ne_of_mem_letterEscapes hl]
    | code hn => exact absurd rfl (hpieces _ _)

/-- A character that was read goes to the end of what was read before. -/
lemma map_read_cons (c : Char) (read rest : List Char) (text : Option (List Char)) :
    text.map (fun text => ((c :: read).reverse ++ text, rest)) =
      (text.map (c :: ·)).map fun text => (read.reverse ++ text, rest) := by
  cases text <;> simp

/-- A string is read as the text that its pieces spell, after what was read of it, and refused if
they spell none. -/
lemma readBodyFrom_pieces (hparts : List.Forall₂ PieceText pieces parts) (read rest : List Char) :
    (readBodyFrom read (parts.flatten ++ '"' :: rest)).toOption =
      (assemble pieces).map fun text => (read.reverse ++ text, rest) := by
  fun_induction assemble pieces generalizing parts read with
  | case1 =>
    cases hparts
    rw [List.flatten_nil, List.nil_append, readBodyFrom, if_pos rfl]
    simp [Except.toOption]
  | case2 c pieces ih =>
    cases hparts with
    | cons hpiece hparts =>
      rw [List.flatten_cons, List.append_assoc, readBodyFrom_char hpiece, ← map_read_cons]
      exact ih hparts (c :: read)
  | case3 n pieces htrailing =>
    obtain ⟨a, b, c, d, others, hn, hothers, htext⟩ := exists_digits_of_unit hparts ('"' :: rest)
    obtain ⟨e, he⟩ := exists_readEscape_trailing hn htrailing (others.flatten ++ '"' :: rest)
    rw [htext, readBodyFrom_of_escape_error he]
    rfl
  | case4 n htrailing hleading m pieces hm ih =>
    obtain ⟨a, b, c, d, others, hn, hothers, htext⟩ := exists_digits_of_unit hparts ('"' :: rest)
    obtain ⟨a', b', c', d', behind, hm', hbehind, htext'⟩ :=
      exists_digits_of_unit hothers ('"' :: rest)
    have hescape := readEscape_leading hn (by simpa using htrailing) hleading
      (others.flatten ++ '"' :: rest)
    rw [htext', readTrailingSurrogate_unit hm', if_pos hm] at hescape
    rw [htext, htext', readBodyFrom_of_escape hescape, ih hbehind, map_read_cons]
  | case5 n htrailing hleading m pieces hm =>
    obtain ⟨a, b, c, d, others, hn, hothers, htext⟩ := exists_digits_of_unit hparts ('"' :: rest)
    obtain ⟨a', b', c', d', behind, hm', hbehind, htext'⟩ :=
      exists_digits_of_unit hothers ('"' :: rest)
    have hescape := readEscape_leading hn (by simpa using htrailing) hleading
      (others.flatten ++ '"' :: rest)
    rw [htext', readTrailingSurrogate_unit hm', if_neg hm] at hescape
    rw [htext, htext', readBodyFrom_of_escape_error hescape]
    rfl
  | case6 n pieces htrailing hleading hunit =>
    obtain ⟨a, b, c, d, others, hn, hothers, htext⟩ := exists_digits_of_unit hparts ('"' :: rest)
    have hescape := readEscape_leading hn (by simpa using htrailing) hleading
      (others.flatten ++ '"' :: rest)
    obtain ⟨e, he⟩ := exists_readTrailingSurrogate_error (ne_unit_of_pieces hothers hunit rest)
    rw [he] at hescape
    rw [htext, readBodyFrom_of_escape_error hescape]
    rfl
  | case7 n pieces htrailing hleading ih =>
    obtain ⟨a, b, c, d, others, hn, hothers, htext⟩ := exists_digits_of_unit hparts ('"' :: rest)
    have hescape := readEscape_unit hn (by simpa using htrailing) (by simpa using hleading)
      (others.flatten ++ '"' :: rest)
    rw [htext, readBodyFrom_of_escape hescape, ih hothers, map_read_cons]

/-- **A string is read as the text that its pieces spell**, and refused if they spell none. -/
theorem readBody_pieces (hparts : List.Forall₂ PieceText pieces parts) (rest : List Char) :
    (readBody (parts.flatten ++ '"' :: rest)).toOption =
      (assemble pieces).map fun text => (text, rest) :=
  readBodyFrom_pieces hparts [] rest

/-! ## The texts of strings -/

variable {text : Option String} {t : List Char}

/-- What follows the opening quote is read as the text, if there is one, and is always passed
over. -/
lemma StringText.exists_body (h : StringText text t) : ∃ body, t = '"' :: body ∧
    (∀ rest, (readBody (body ++ rest)).toOption = text.map fun s => (s.toList, rest)) ∧
    ∀ rest, skipBody (body ++ rest) = .ok rest := by
  obtain ⟨hparts⟩ := h
  refine ⟨_, rfl, fun rest => ?_, fun rest => ?_⟩
  · rw [List.append_assoc, List.singleton_append, readBody_pieces hparts, Option.map_map]
    simp only [Function.comp_def, String.toList_ofList]
  · rw [List.append_assoc, List.singleton_append, skipBody_pieces hparts]

/-- The reader of strings answers a text of a string with the string. -/
lemma StringText.answers (h : StringText text t) : textReader.Answers t text := by
  obtain ⟨body, rfl, hread, -⟩ := h.exists_body
  intro gap rest hgap hrest
  have htext : textReader.read (gap ++ ('"' :: body ++ rest)) =
      (readBody (body ++ rest)).map fun p => (String.ofList p.1, p.2) := by
    simp only [textReader, List.cons_append, skipSpace_gap_cons hgap (c := '"') rfl]
  rw [htext, toOption_map, hread, Option.map_map]
  simp only [Function.comp_def, String.ofList_toList]

end DeviceFleet.Json
