/-
# Numbers in JSON

A number with neither fraction nor exponent that fits into 64 bits is kept exactly; every other
number is rounded to a binary fraction.  Rounding looks at the leading digits that fit into 64
bits and counts the others into the power of ten.
-/
import DeviceFleet.Json.Space
import DeviceFleet.Json.Failure

namespace DeviceFleet.Json

open DeviceFleet.Decimal

/-- The numbers that a reader tells apart. -/
inductive Number where
  /-- A whole number without sign, below `2 ^ 64`. -/
  | natural (value : Nat)
  /-- The negative of a positive whole number up to `2 ^ 63`. -/
  | negative (magnitude : Nat)
  /-- Any other number, rounded. -/
  | real (negative : Bool) (magnitude : Binary64)
deriving DecidableEq, Repr

/-- A number that stood where another kind was expected. -/
def Number.found : Number → Found
  | .natural n => .integer n
  | .negative n => .integer (-n)
  | .real minus x => .real minus x

/-- The value of a digit. -/
def digitValue (c : Char) : Nat := c.toNat - 48

/-- Reads digits as long as the number that they spell, after `value`, stays within `limit`. -/
def readDigits (limit value : Nat) : List Char → Nat × List Char
  | [] => (value, [])
  | c :: r =>
    if c.isDigit && value * 10 + digitValue c ≤ limit then
      readDigits limit (value * 10 + digitValue c) r
    else (value, c :: r)

/-- A text without the digits at its start. -/
def skipDigits (s : List Char) : List Char := s.dropWhile Char.isDigit

/-- The text starts with a digit. -/
def startsWithDigit : List Char → Bool
  | c :: _ => c.isDigit
  | [] => false

/-- The greatest whole number of 64 bits. -/
def largestWord : Nat := Nat.pow 2 64 - 1

/-- The greatest exponent that is taken at its value. -/
def largestExponent : Nat := Nat.pow 2 31 - 1

theorem length_readDigits_le (limit value : Nat) (s : List Char) :
    (readDigits limit value s).2.length ≤ s.length := by
  induction s generalizing value with
  | nil => simp [readDigits]
  | cons c r ih =>
    rw [readDigits]
    split
    · have := ih (value * 10 + digitValue c)
      simp only [List.length_cons]
      omega
    · simp

theorem length_skipDigits_le (s : List Char) : (skipDigits s).length ≤ s.length :=
  (List.dropWhile_sublist _).length_le

/-! ## Reading -/

/-- The number `significand * 10 ^ power`, rounded. -/
def rounded (negative : Bool) (significand : Nat) (power : Int) (rest : List Char) :
    Reading Number :=
  match (Binary64.nearest significand 1).bind (·.timesPowerOfTen power) with
  | some x => .ok (.real negative x, rest)
  | none => failAt .numberOutOfRange rest

/-- The sign at the start of an exponent, and what follows it. -/
def readExponentSign (s : List Char) : Bool × List Char :=
  match s with
  | '+' :: r => (false, r)
  | '-' :: r => (true, r)
  | _ => (false, s)

/-- An exponent, after its letter.  Beyond the largest exponent a number is zero or out of
range. -/
def readExponent (negative : Bool) (significand : Nat) (power : Int) (s : List Char) :
    Reading Number :=
  let (down, r) := readExponentSign s
  match r with
  | [] => failAt .endInValue r
  | c :: t =>
    if c.isDigit then
      let (e, rest) := readDigits largestExponent (digitValue c) t
      match rest with
      | d :: beyond =>
        if d.isDigit then
          if significand = 0 || down then .ok (.real negative .zero, skipDigits beyond)
          else failAt .numberOutOfRange beyond
        else rounded negative significand (if down then power - e else power + e) rest
      | [] => rounded negative significand (if down then power - e else power + e) rest
    else failNext .invalidNumber r

/-- What may follow the digits of a fraction. -/
def readAfterFraction (negative : Bool) (significand : Nat) (power : Int) (s : List Char) :
    Reading Number :=
  match s with
  | c :: r =>
    if c = 'e' || c = 'E' then readExponent negative significand power r
    else rounded negative significand power s
  | [] => rounded negative significand power s

/-- A fraction, after its point. -/
def readFraction (negative : Bool) (significand : Nat) (power : Int) (s : List Char) :
    Reading Number :=
  let (m, rest) := readDigits largestWord significand s
  let places := s.length - rest.length
  if startsWithDigit rest then
    readAfterFraction negative m (power - places) (skipDigits rest)
  else if places = 0 then
    if rest.isEmpty then failAt .endInValue rest else failNext .invalidNumber rest
  else readAfterFraction negative m (power - places) rest

/-- What may follow the whole digits of a number. -/
def readAfterDigits (negative : Bool) (significand : Nat) (power : Int) (exact : Reading Number)
    (s : List Char) : Reading Number :=
  match s with
  | c :: r =>
    if c = '.' then readFraction negative significand power r
    else if c = 'e' || c = 'E' then readExponent negative significand power r
    else exact
  | [] => exact

/-- A whole number that fits into 64 bits; zero keeps its sign as a rounded number only. -/
def wholeNumber (negative : Bool) (value : Nat) (rest : List Char) : Reading Number :=
  if !negative then .ok (.natural value, rest)
  else if 0 < value && value ≤ Nat.pow 2 63 then .ok (.negative value, rest)
  else rounded true value 0 rest

/-- A number, after its sign. -/
def readUnsigned (negative : Bool) (s : List Char) : Reading Number :=
  match s with
  | [] => failAt .endInValue s
  | c :: r =>
    if c = '0' then
      if startsWithDigit r then failNext .invalidNumber r
      else readAfterDigits negative 0 0 (wholeNumber negative 0 r) r
    else if c.isDigit then
      let (m, rest) := readDigits largestWord (digitValue c) r
      if startsWithDigit rest then
        let beyond := skipDigits rest
        let power := rest.length - beyond.length
        readAfterDigits negative m power (rounded negative m power beyond) beyond
      else readAfterDigits negative m 0 (wholeNumber negative m rest) rest
    else failNext .invalidNumber s

/-- A number, where a sign or digit stands. -/
def readNumber (s : List Char) : Reading Number :=
  match s with
  | '-' :: r => readUnsigned true r
  | _ => readUnsigned false s

/-! ### What is left is shorter -/

theorem rest_rounded {negative : Bool} {m : Nat} {power : Int} {s r : List Char} {n : Number}
    (h : rounded negative m power s = .ok (n, r)) : r = s := by
  unfold rounded at h
  split at h
  · exact (Prod.mk.inj (Except.ok.inj h)).2.symm
  · cases h

theorem length_rounded_le {negative : Bool} {m : Nat} {power : Int} {s r : List Char}
    {n : Number} (h : rounded negative m power s = .ok (n, r)) : r.length ≤ s.length :=
  Nat.le_of_eq (congrArg List.length (rest_rounded h))

theorem length_readExponent {negative : Bool} {m : Nat} {power : Int} {s r : List Char}
    {n : Number} (h : readExponent negative m power s = .ok (n, r)) : r.length ≤ s.length := by
  have hsign : (readExponentSign s).2.length ≤ s.length := by
    unfold readExponentSign
    split <;> simp
  unfold readExponent at h
  simp only at h
  split at h
  · cases h
  · next c t ht =>
    rw [ht, List.length_cons] at hsign
    have hd := length_readDigits_le largestExponent (digitValue c) t
    split at h
    · split at h
      · next d beyond hb =>
        rw [hb, List.length_cons] at hd
        split at h
        · split at h
          · obtain ⟨-, rfl⟩ := Prod.mk.inj (Except.ok.inj h)
            have := length_skipDigits_le beyond
            omega
          · cases h
        · rw [rest_rounded h, hb, List.length_cons]
          omega
      · rw [rest_rounded h]
        omega
    · cases h

theorem length_readAfterFraction {negative : Bool} {m : Nat} {power : Int} {s r : List Char}
    {n : Number} (h : readAfterFraction negative m power s = .ok (n, r)) :
    r.length ≤ s.length := by
  unfold readAfterFraction at h
  split at h
  · split at h
    · have := length_readExponent h
      simp only [List.length_cons]
      omega
    · exact length_rounded_le h
  · exact length_rounded_le h

theorem length_readFraction {negative : Bool} {m : Nat} {power : Int} {s r : List Char}
    {n : Number} (h : readFraction negative m power s = .ok (n, r)) : r.length ≤ s.length := by
  have hd := length_readDigits_le largestWord m s
  unfold readFraction at h
  simp only at h
  split at h
  · have h1 := length_readAfterFraction h
    have h2 := length_skipDigits_le (readDigits largestWord m s).2
    omega
  · split at h
    · split at h <;> cases h
    · have := length_readAfterFraction h
      omega

theorem length_readAfterDigits {negative : Bool} {m : Nat} {power : Int} {exact : Reading Number}
    {s r : List Char} {n : Number} (hexact : ∀ n r, exact = .ok (n, r) → r.length ≤ s.length)
    (h : readAfterDigits negative m power exact s = .ok (n, r)) : r.length ≤ s.length := by
  unfold readAfterDigits at h
  split at h
  · split at h
    · have := length_readFraction h
      simp only [List.length_cons]
      omega
    · split at h
      · have := length_readExponent h
        simp only [List.length_cons]
        omega
      · exact hexact _ _ h
  · exact hexact _ _ h

theorem rest_wholeNumber {negative : Bool} {m : Nat} {s r : List Char} {n : Number}
    (h : wholeNumber negative m s = .ok (n, r)) : r = s := by
  unfold wholeNumber at h
  split at h
  · exact (Prod.mk.inj (Except.ok.inj h)).2.symm
  · split at h
    · exact (Prod.mk.inj (Except.ok.inj h)).2.symm
    · exact rest_rounded h

theorem length_wholeNumber_le {negative : Bool} {m : Nat} {s r : List Char} {n : Number}
    (h : wholeNumber negative m s = .ok (n, r)) : r.length ≤ s.length :=
  Nat.le_of_eq (congrArg List.length (rest_wholeNumber h))

theorem length_readUnsigned {negative : Bool} {s r : List Char} {n : Number}
    (h : readUnsigned negative s = .ok (n, r)) : r.length < s.length := by
  unfold readUnsigned at h
  split at h
  · cases h
  · next c t =>
    rw [List.length_cons]
    split at h
    · split at h
      · cases h
      · have := length_readAfterDigits (fun _ _ h => length_wholeNumber_le h) h
        omega
    · split at h
      · have hd := length_readDigits_le largestWord (digitValue c) t
        simp only at h
        split at h
        · have h1 := length_readAfterDigits (fun _ _ h => length_rounded_le h) h
          have h2 := length_skipDigits_le (readDigits largestWord (digitValue c) t).2
          omega
        · have h1 := length_readAfterDigits (fun _ _ h => length_wholeNumber_le h) h
          omega
      · cases h

theorem length_readNumber {s r : List Char} {n : Number} (h : readNumber s = .ok (n, r)) :
    r.length < s.length := by
  unfold readNumber at h
  split at h
  · have := length_readUnsigned h
    simp only [List.length_cons]
    omega
  · exact length_readUnsigned h

/-! ## Passing over a number -/

/-- Passes over an exponent, after its letter. -/
def skipExponent (s : List Char) : Except Failure (List Char) :=
  let r := (readExponentSign s).2
  if startsWithDigit r then .ok (skipDigits r) else failNext .invalidNumber r

/-- Passes over a fraction, after its point. -/
def skipFraction (s : List Char) : Except Failure (List Char) :=
  if startsWithDigit s then
    match skipDigits s with
    | c :: r => if c = 'e' || c = 'E' then skipExponent r else .ok (c :: r)
    | [] => .ok []
  else failNext .invalidNumber s

/-- Passes over what may follow the whole digits of a number. -/
def skipAfterDigits (s : List Char) : Except Failure (List Char) :=
  match s with
  | c :: r =>
    if c = '.' then skipFraction r
    else if c = 'e' || c = 'E' then skipExponent r
    else .ok s
  | [] => .ok s

/-- Passes over a number, after its sign. -/
def skipUnsigned (s : List Char) : Except Failure (List Char) :=
  match s with
  | [] => failAt .invalidNumber s
  | c :: r =>
    if c = '0' then if startsWithDigit r then failNext .invalidNumber r else skipAfterDigits r
    else if c.isDigit then skipAfterDigits (skipDigits r)
    else failNext .invalidNumber s

theorem length_skipExponent {s r : List Char} (h : skipExponent s = .ok r) :
    r.length ≤ s.length := by
  have hsign : (readExponentSign s).2.length ≤ s.length := by
    unfold readExponentSign
    split <;> simp
  unfold skipExponent at h
  simp only at h
  split at h
  · cases h
    have := length_skipDigits_le (readExponentSign s).2
    omega
  · cases h

theorem length_skipFraction {s r : List Char} (h : skipFraction s = .ok r) :
    r.length ≤ s.length := by
  have hd := length_skipDigits_le s
  unfold skipFraction at h
  split at h
  · split at h
    · next c t ht =>
      rw [ht, List.length_cons] at hd
      split at h
      · have := length_skipExponent h
        omega
      · cases h
        rw [List.length_cons]
        omega
    · cases h
      simp
  · cases h

theorem length_skipAfterDigits {s r : List Char} (h : skipAfterDigits s = .ok r) :
    r.length ≤ s.length := by
  unfold skipAfterDigits at h
  split at h
  · split at h
    · have := length_skipFraction h
      simp only [List.length_cons]
      omega
    · split at h
      · have := length_skipExponent h
        simp only [List.length_cons]
        omega
      · cases h
        exact Nat.le_refl _
  · cases h
    exact Nat.le_refl _

theorem length_skipUnsigned {s r : List Char} (h : skipUnsigned s = .ok r) :
    r.length < s.length := by
  unfold skipUnsigned at h
  split at h
  · cases h
  · next c t =>
    rw [List.length_cons]
    split at h
    · split at h
      · cases h
      · have := length_skipAfterDigits h
        omega
    · split at h
      · have h1 := length_skipAfterDigits h
        have h2 := length_skipDigits_le t
        omega
      · cases h

end DeviceFleet.Json
