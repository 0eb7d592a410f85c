/-
# Passing over a value

A member that a record does not know is passed over, whatever it holds.  The arrays and objects
that are open are kept on a stack, so nothing is read more deeply than it has to be, and a value
of any depth is passed over.
-/
import DeviceFleet.Json.Number
import DeviceFleet.Json.Text

namespace DeviceFleet.Json

/-- Reads the rest of a word, such as `ull` after an `n`. -/
def readWord : List Char → List Char → Except Failure (List Char)
  | [], s => .ok s
  | _ :: _, [] => failAt .endInValue []
  | w :: word, c :: r => if c = w then readWord word r else failNext .expectedWord (c :: r)

theorem length_readWord {word s r : List Char} (h : readWord word s = .ok r) :
    r.length ≤ s.length := by
  induction word generalizing s with
  | nil => cases h; exact Nat.le_refl _
  | cons w word ih =>
    cases s with
    | nil => cases h
    | cons c t =>
      rw [readWord] at h
      split at h
      · have := ih h
        rw [List.length_cons]
        omega
      · cases h

/-- What is open around a value. -/
inductive Bracket where
  /-- An array. -/
  | list
  /-- An object. -/
  | object
deriving DecidableEq, Repr

/-- The cause when a text ends inside it. -/
def Bracket.unclosed : Bracket → Cause
  | .list => .endInList
  | .object => .endInObject

/-- The cause when a value in it is followed by neither a comma nor its end. -/
def Bracket.unseparated : Bracket → Cause
  | .list => .expectedCommaOrEndOfList
  | .object => .expectedCommaOrEndOfObject

/-- The character that closes it. -/
def Bracket.closing : Bracket → Char
  | .list => ']'
  | .object => '\x7d'

/-- Passes over a key and the colon after it. -/
def skipKey (s : List Char) : Except Failure (List Char) :=
  match skipSpace s with
  | [] => failAt .endInObject []
  | '"' :: r =>
    match skipBody r with
    | .error e => .error e
    | .ok rest =>
      match skipSpace rest with
      | [] => failAt .endInObject []
      | ':' :: r => .ok r
      | rest => failNext .expectedColon rest
  | rest => failNext .keyNotText rest

/-- Passes over a value that is neither array nor object. -/
def skipScalar (s : List Char) : Except Failure (List Char) :=
  match s with
  | [] => failAt .endInValue []
  | 'n' :: r => readWord ['u', 'l', 'l'] r
  | 't' :: r => readWord ['r', 'u', 'e'] r
  | 'f' :: r => readWord ['a', 'l', 's', 'e'] r
  | '-' :: r => skipUnsigned r
  | '"' :: r => skipBody r
  | c :: r => if c.isDigit then skipUnsigned (c :: r) else failNext .expectedValue (c :: r)

/-- The bracket that a character opens. -/
def bracket? (c : Char) : Option Bracket :=
  if c = '[' then some .list else if c = '\x7b' then some .object else none

theorem length_skipKey {s r : List Char} (h : skipKey s = .ok r) : r.length < s.length := by
  have hs := length_skipSpace_le s
  unfold skipKey at h
  split at h
  · cases h
  · next t ht =>
    rw [ht, List.length_cons] at hs
    split at h
    · cases h
    · next rest hb =>
      have h1 := length_skipBody hb
      have h2 := length_skipSpace_le rest
      split at h
      · cases h
      · next hr =>
        cases h
        rw [hr, List.length_cons] at h2
        omega
      · cases h
  · cases h

theorem length_skipScalar {s r : List Char} (h : skipScalar s = .ok r) : r.length < s.length := by
  unfold skipScalar at h
  split at h
  · cases h
  · have := length_readWord h; rw [List.length_cons]; omega
  · have := length_readWord h; rw [List.length_cons]; omega
  · have := length_readWord h; rw [List.length_cons]; omega
  · have := length_skipUnsigned h; rw [List.length_cons]; omega
  · have := length_skipBody h; rw [List.length_cons]; omega
  · split at h
    · exact length_skipUnsigned h
    · cases h

mutual

/-- Passes over a value and over what is open around it. -/
def skipNested (around : List Bracket) (s : List Char) : Except Failure (List Char) :=
  match h : skipSpace s with
  | [] => failAt .endInValue []
  | c :: r =>
    have hs : r.length < s.length := by
      have := length_skipSpace_le s
      rw [h, List.length_cons] at this
      omega
    match bracket? c with
    | some b => skipFirst b around r
    | none =>
      match hv : skipScalar (c :: r) with
      | .error e => .error e
      | .ok rest =>
        have : rest.length < s.length := by
          have := length_skipScalar hv
          rw [List.length_cons] at this
          omega
        skipAfter around rest
termination_by (s.length, 1)

/-- Passes over the inside of a bracket just opened, and over what is open around it. -/
def skipFirst (b : Bracket) (around : List Bracket) (s : List Char) :
    Except Failure (List Char) :=
  match h : skipSpace s with
  | [] => failAt b.unclosed []
  | c :: r =>
    have hs : r.length < s.length := by
      have := length_skipSpace_le s
      rw [h, List.length_cons] at this
      omega
    if c = b.closing then skipAfter around r
    else
      match b with
      | .list => skipNested (b :: around) s
      | .object =>
        match hk : skipKey s with
        | .error e => .error e
        | .ok rest =>
          have : rest.length < s.length := length_skipKey hk
          skipNested (b :: around) rest
termination_by (s.length, 2)

/-- Passes over what follows a value inside the brackets around it. -/
def skipAfter (around : List Bracket) (s : List Char) : Except Failure (List Char) :=
  match around with
  | [] => .ok s
  | b :: outer =>
    match h : skipSpace s with
    | [] => failAt b.unclosed []
    | c :: r =>
      have hs : r.length < s.length := by
        have := length_skipSpace_le s
        rw [h, List.length_cons] at this
        omega
      if c = ',' then
        match b with
        | .list => skipNested (b :: outer) r
        | .object =>
          match hk : skipKey r with
          | .error e => .error e
          | .ok rest =>
            have : rest.length < s.length := Nat.lt_trans (length_skipKey hk) hs
            skipNested (b :: outer) rest
      else if c = b.closing then skipAfter outer r
      else failNext b.unseparated (c :: r)
termination_by (s.length, 0)

end

mutual

theorem length_skipNested {around : List Bracket} {s r : List Char}
    (h : skipNested around s = .ok r) : r.length < s.length := by
  have hs := length_skipSpace_le s
  unfold skipNested at h
  split at h
  · cases h
  · next c t ht =>
    have hlt : t.length < s.length := by
      rw [ht, List.length_cons] at hs
      omega
    split at h
    · have := length_skipFirst h
      omega
    · split at h
      · cases h
      · next rest hv =>
        have h1 : rest.length < s.length := by
          have : rest.length < t.length + 1 := length_skipScalar hv
          omega
        have h2 := length_skipAfter h
        omega
termination_by (s.length, 1)

theorem length_skipFirst {b : Bracket} {around : List Bracket} {s r : List Char}
    (h : skipFirst b around s = .ok r) : r.length < s.length := by
  have hs := length_skipSpace_le s
  unfold skipFirst at h
  split at h
  · cases h
  · next c t ht =>
    have hlt : t.length < s.length := by
      rw [ht, List.length_cons] at hs
      omega
    split at h
    · have := length_skipAfter h
      omega
    · split at h
      · exact length_skipNested h
      · split at h
        · cases h
        · next rest hk =>
          have h1 := length_skipKey hk
          have h2 := length_skipNested h
          omega
termination_by (s.length, 2)

theorem length_skipAfter {around : List Bracket} {s r : List Char}
    (h : skipAfter around s = .ok r) : r.length ≤ s.length := by
  have hs := length_skipSpace_le s
  unfold skipAfter at h
  split at h
  · cases h
    exact Nat.le_refl _
  · next b outer =>
    split at h
    · cases h
    · next c t ht =>
      have hlt : t.length < s.length := by
        rw [ht, List.length_cons] at hs
        omega
      split at h
      · split at h
        · have := length_skipNested h
          omega
        · split at h
          · cases h
          · next rest hk =>
            have h1 : rest.length < s.length := Nat.lt_trans (length_skipKey hk) hlt
            have h2 := length_skipNested h
            omega
      · split at h
        · have := length_skipAfter h
          omega
        · cases h
termination_by (s.length, 0)

end

/-- Passes over a value. -/
def skipValue (s : List Char) : Except Failure (List Char) := skipNested [] s

theorem length_skipValue {s r : List Char} (h : skipValue s = .ok r) : r.length < s.length :=
  length_skipNested h

end DeviceFleet.Json
