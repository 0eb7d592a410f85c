/-
# Readers of values

A reader takes one value off the start of a text and answers it with what is left.  That it takes
off at least one character is part of its type, so a loop over values needs no other reason to
end.  A value of another kind is read far enough to name it.
-/
import DeviceFleet.Json.Skip

namespace DeviceFleet.Json

/-- A reader of values of one type. -/
structure Reader (α : Type) where
  /-- Takes a value off the start of a text. -/
  read : List Char → Reading α
  /-- What is left is shorter. -/
  shorter : ∀ {s r : List Char} {a : α}, read s = .ok (a, r) → r.length < s.length

/-- Reads as `reader` does and changes the value. -/
def Reader.map {α β : Type} (f : α → β) (reader : Reader α) : Reader β where
  read s :=
    match reader.read s with
    | .error e => .error e
    | .ok (a, r) => .ok (f a, r)
  shorter {s r b} h := by
    split at h
    · cases h
    · next ha =>
      obtain ⟨-, rfl⟩ := Prod.mk.inj (Except.ok.inj h)
      exact reader.shorter ha

/-! ## Values of another kind -/

/-- Names the value that the text starts with; arrays and objects are not looked into. -/
def readFound (s : List Char) : Reading Found :=
  match s with
  | [] => failAt .endInValue s
  | 'n' :: r => (readWord ['u', 'l', 'l'] r).map (.null, ·)
  | 't' :: r => (readWord ['r', 'u', 'e'] r).map (.boolean true, ·)
  | 'f' :: r => (readWord ['a', 'l', 's', 'e'] r).map (.boolean false, ·)
  | '"' :: r => (readBody r).map fun (t, rest) => (.text t, rest)
  | '[' :: _ => .ok (.list, s)
  | '\x7b' :: _ => .ok (.object, s)
  | c :: _ =>
    if c = '-' || c.isDigit then (readNumber s).map fun (n, rest) => (n.found, rest)
    else failNext .expectedValue s

/-- Refuses the value that the text starts with, which is not of the expected kind. -/
def mismatch {α : Type} (expected : String) (s : List Char) : Except Failure α :=
  match readFound s with
  | .error e => .error e
  | .ok (found, rest) => failAt (.wrongType found expected) rest

/-! ## Strings and port numbers -/

/-- Reads a string. -/
def textReader : Reader String where
  read s :=
    match skipSpace s with
    | [] => failAt .endInValue []
    | '"' :: r => (readBody r).map fun (t, rest) => (String.ofList t, rest)
    | t => mismatch "a string" t
  shorter {s r a} h := by
    have hs := length_skipSpace_le s
    split at h
    · cases h
    · next t ht =>
      rw [ht, List.length_cons] at hs
      cases hb : readBody t with
      | error e => simp [hb, Except.map] at h
      | ok p =>
        have := length_readBody hb
        simp only [hb, Except.map] at h
        obtain ⟨-, rfl⟩ := Prod.mk.inj (Except.ok.inj h)
        omega
    · unfold mismatch at h
      split at h <;> cases h

/-- The port that a number names. -/
def portOf (n : Number) (rest : List Char) : Reading UInt16 :=
  match n with
  | .natural v =>
    if v ≤ 65535 then .ok (v.toUInt16, rest) else failAt (.wrongValue v "u16") rest
  | .negative v => failAt (.wrongValue (-v) "u16") rest
  | .real .. => failAt (.wrongType n.found "u16") rest

/-- Reads a port number: a whole number without sign that fits into 16 bits. -/
def portReader : Reader UInt16 where
  read s :=
    match skipSpace s with
    | [] => failAt .endInValue []
    | c :: r =>
      if c = '-' || c.isDigit then
        match readNumber (c :: r) with
        | .error e => .error e
        | .ok (n, rest) => portOf n rest
      else mismatch "u16" (c :: r)
  shorter {s r a} h := by
    have hs := length_skipSpace_le s
    split at h
    · cases h
    · next c t ht =>
      rw [ht, List.length_cons] at hs
      split at h
      · split at h
        · cases h
        · next n rest hn =>
          have h1 : rest.length < t.length + 1 := length_readNumber hn
          have h2 : r = rest := by
            unfold portOf at h
            split at h
            · split at h
              · exact (Prod.mk.inj (Except.ok.inj h)).2.symm
              · cases h
            · cases h
            · cases h
          rw [h2]
          omega
      · unfold mismatch at h
        split at h <;> cases h

/-! ## Arrays -/

/-- Moves to the next element of an array, or stops before its end. -/
def nextElement (first : Bool) (s : List Char) : Except Failure (Option (List Char)) :=
  match skipSpace s with
  | [] => failAt .endInList []
  | ']' :: _ => .ok none
  | c :: r =>
    if first then .ok (some (c :: r))
    else if c = ',' then
      match skipSpace r with
      | [] => failAt .endInValue []
      | ']' :: t => failNext .trailingComma (']' :: t)
      | t => .ok (some t)
    else failNext .expectedCommaOrEndOfList (c :: r)

/-- Takes the end of an array. -/
def endList (s : List Char) : Except Failure (List Char) :=
  match skipSpace s with
  | [] => failAt .endInList []
  | ']' :: r => .ok r
  | ',' :: r =>
    match skipSpace r with
    | ']' :: t => failNext .trailingComma (']' :: t)
    | t => failNext .trailingCharacters t
  | t => failNext .trailingCharacters t

theorem length_nextElement {first : Bool} {s r : List Char}
    (h : nextElement first s = .ok (some r)) : r.length ≤ s.length := by
  have hs := length_skipSpace_le s
  unfold nextElement at h
  split at h
  · cases h
  · cases h
  · next c t _ ht =>
    rw [ht, List.length_cons] at hs
    split at h
    · cases h
      exact hs
    · split at h
      · have h2 := length_skipSpace_le t
        split at h
        · cases h
        · cases h
        · obtain rfl := Option.some.inj (Except.ok.inj h)
          omega
      · cases h

theorem length_endList {s r : List Char} (h : endList s = .ok r) : r.length < s.length := by
  have hs := length_skipSpace_le s
  unfold endList at h
  split at h
  · cases h
  · next t ht =>
    rw [ht, List.length_cons] at hs
    cases h
    omega
  · split at h <;> cases h
  · cases h

/-- Reads the elements of an array up to its end; `read` are those before, backwards. -/
def readElements {α : Type} (reader : Reader α) (read : List α) (first : Bool) (s : List Char) :
    Reading (List α) :=
  match hn : nextElement first s with
  | .error e => .error e
  | .ok none => .ok (read.reverse, s)
  | .ok (some t) =>
    match hr : reader.read t with
    | .error e => .error e
    | .ok (a, rest) =>
      have : rest.length < s.length :=
        Nat.lt_of_lt_of_le (reader.shorter hr) (length_nextElement hn)
      readElements reader (a :: read) false rest
termination_by s.length

theorem length_readElements {α : Type} {reader : Reader α} {read as : List α} {first : Bool}
    {s r : List Char} (h : readElements reader read first s = .ok (as, r)) :
    r.length ≤ s.length := by
  fun_induction readElements reader read first s with
  | case1 => cases h
  | case2 => cases h; exact Nat.le_refl _
  | case3 => cases h
  | case4 _ _ _ _ _ _ _ _ hlt ih => exact Nat.le_trans (ih h) (Nat.le_of_lt hlt)

/-- Reads an array. -/
def listReader {α : Type} (reader : Reader α) : Reader (List α) where
  read s :=
    match skipSpace s with
    | [] => failAt .endInValue []
    | '[' :: r =>
      match readElements reader [] true r with
      | .error e => .error e
      | .ok (as, rest) => (endList rest).map (as, ·)
    | t => mismatch "a sequence" t
  shorter {s r a} h := by
    have hs := length_skipSpace_le s
    split at h
    · cases h
    · next t ht =>
      rw [ht, List.length_cons] at hs
      split at h
      · cases h
      · next rest hr =>
        have h1 := length_readElements hr
        cases he : endList rest with
        | error e => simp [he, Except.map] at h
        | ok p =>
          have h2 := length_endList he
          simp only [he, Except.map] at h
          obtain ⟨-, rfl⟩ := Prod.mk.inj (Except.ok.inj h)
          omega
    · unfold mismatch at h
      split at h <;> cases h

/-! ## Whole texts -/

/-- Reads a text that holds one value and nothing else. -/
def Reader.decode {α : Type} (reader : Reader α) (text : List Char) : Except ReadError α :=
  match reader.read text with
  | .error f => .error (f.placedIn text)
  | .ok (a, rest) =>
    match skipSpace rest with
    | [] => .ok a
    | t => .error (Failure.placedIn ⟨.trailingCharacters, t, 1⟩ text)

end DeviceFleet.Json
