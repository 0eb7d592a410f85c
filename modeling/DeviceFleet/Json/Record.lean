/-
# Records

A record is read from an object, whose members may come in any order and with others between
them, or from an array of its fields in order.  Fields
with a default may be missing; a field may not occur twice.
-/
import DeviceFleet.Json.Reader

namespace DeviceFleet.Json

/-- A field of a record that is collected in drafts of type `σ`. -/
structure Field (σ : Type) where
  /-- Its key. -/
  name : String
  /-- Whether it may not be missing. -/
  required : Bool
  /-- Whether a draft has it. -/
  given : σ → Bool
  /-- Reads its value and puts it into a draft. -/
  reader : Reader (σ → σ)

/-- The field whose value `reader` reads, kept in the part of a draft that `get` and `put`
reach. -/
def Field.of {σ β : Type} (name : String) (required : Bool) (reader : Reader β)
    (get : σ → Option β) (put : β → σ → σ) : Field σ :=
  ⟨name, required, fun draft => (get draft).isSome, reader.map put⟩

/-- How records of type `α` are read by way of drafts of type `σ`. -/
structure Schema (σ α : Type) where
  /-- What error texts call the record. -/
  title : String
  /-- The fields in order. -/
  fields : List (Field σ)
  /-- The draft without any field. -/
  blank : σ
  /-- The record of a draft that has all required fields. -/
  finish : σ → α

/-! ## Objects -/

/-- Moves past the opening quote of the next key of an object, or stops before its end. -/
def nextKey (first : Bool) (s : List Char) : Except Failure (Option (List Char)) :=
  match skipSpace s with
  | [] => failAt .endInObject []
  | c :: r =>
    if c = '\x7d' then .ok none
    else if first then if c = '"' then .ok (some r) else failNext .keyNotText (c :: r)
    else if c = ',' then
      match skipSpace r with
      | [] => failAt .endInValue []
      | d :: t =>
        if d = '"' then .ok (some t)
        else if d = '\x7d' then failNext .trailingComma (d :: t)
        else failNext .keyNotText (d :: t)
    else failNext .expectedCommaOrEndOfObject (c :: r)

/-- Takes the colon after a key. -/
def readColon (s : List Char) : Except Failure (List Char) :=
  match skipSpace s with
  | [] => failAt .endInObject []
  | ':' :: r => .ok r
  | t => failNext .expectedColon t

/-- Moves past the end of an object, if it comes next. -/
def pastObject (s : List Char) : List Char :=
  match skipSpace s with
  | [] => []
  | c :: r => if c = '\x7d' then r else c :: r

/-- Takes the end of an object. -/
def endObject (s : List Char) : Except Failure (List Char) :=
  match skipSpace s with
  | [] => failAt .endInObject []
  | c :: r =>
    if c = '\x7d' then .ok r
    else if c = ',' then failNext .trailingComma (c :: r)
    else failNext .trailingCharacters (c :: r)

/-- Reads the value of a known member into the draft. -/
def Field.readInto {σ : Type} (field : Field σ) (draft : σ) (s : List Char) : Reading σ :=
  if field.given draft then failAt (.duplicateField field.name) (pastObject s)
  else
    match readColon s with
    | .error e => .error e
    | .ok r =>
      match field.reader.read r with
      | .error e => .error e
      | .ok (put, rest) => .ok (put draft, rest)

/-- Passes over the value of an unknown member. -/
def skipMember {σ : Type} (draft : σ) (s : List Char) : Reading σ :=
  match readColon s with
  | .error e => .error e
  | .ok r => (skipValue r).map (draft, ·)

/-- Reads a member into the draft, after the opening quote of its key. -/
def readMember {σ : Type} (fields : List (Field σ)) (draft : σ) (s : List Char) : Reading σ :=
  match readBody s with
  | .error e => .error e
  | .ok (key, rest) =>
    match fields.find? fun field => field.name.toList == key with
    | some field => field.readInto draft rest
    | none => skipMember draft rest

theorem length_nextKey {first : Bool} {s r : List Char} (h : nextKey first s = .ok (some r)) :
    r.length < s.length := by
  have hs := length_skipSpace_le s
  unfold nextKey at h
  split at h
  · cases h
  · next c t ht =>
    rw [ht, List.length_cons] at hs
    split at h
    · cases h
    · split at h
      · split at h
        · cases h
          exact hs
        · cases h
      · split at h
        · have h2 := length_skipSpace_le t
          split at h
          · cases h
          · next d u hu =>
            rw [hu, List.length_cons] at h2
            split at h
            · cases h
              omega
            · split at h <;> cases h
        · cases h

theorem length_readColon {s r : List Char} (h : readColon s = .ok r) : r.length < s.length := by
  have hs := length_skipSpace_le s
  unfold readColon at h
  split at h
  · cases h
  · next t ht =>
    rw [ht, List.length_cons] at hs
    cases h
    exact hs
  · cases h

theorem length_endObject {s r : List Char} (h : endObject s = .ok r) : r.length < s.length := by
  have hs := length_skipSpace_le s
  unfold endObject at h
  split at h
  · cases h
  · next c t ht =>
    rw [ht, List.length_cons] at hs
    split at h
    · cases h
      exact hs
    · split at h <;> cases h

theorem length_readMember {σ : Type} {fields : List (Field σ)} {draft d : σ} {s r : List Char}
    (h : readMember fields draft s = .ok (d, r)) : r.length < s.length := by
  unfold readMember at h
  split at h
  · cases h
  · next key rest hk =>
    have h1 := length_readBody hk
    split at h
    · next field _ =>
      unfold Field.readInto at h
      split at h
      · cases h
      · split at h
        · cases h
        · next hc =>
          have h2 := length_readColon hc
          split at h
          · cases h
          · next hv =>
            have h3 := field.reader.shorter hv
            obtain ⟨-, rfl⟩ := Prod.mk.inj (Except.ok.inj h)
            omega
    · unfold skipMember at h
      split at h
      · cases h
      · next t hc =>
        have h2 := length_readColon hc
        cases hv : skipValue t with
        | error e => simp [hv, Except.map] at h
        | ok u =>
          have h3 := length_skipValue hv
          simp only [hv, Except.map] at h
          obtain ⟨-, rfl⟩ := Prod.mk.inj (Except.ok.inj h)
          omega

/-- Reads the members of an object up to its end. -/
def readMembers {σ : Type} (fields : List (Field σ)) (draft : σ) (first : Bool)
    (s : List Char) : Reading σ :=
  match hn : nextKey first s with
  | .error e => .error e
  | .ok none => .ok (draft, s)
  | .ok (some t) =>
    match hm : readMember fields draft t with
    | .error e => .error e
    | .ok (d, rest) =>
      have : rest.length < s.length := Nat.lt_trans (length_readMember hm) (length_nextKey hn)
      readMembers fields d false rest
termination_by s.length

theorem length_readMembers {σ : Type} {fields : List (Field σ)} {draft d : σ} {first : Bool}
    {s r : List Char} (h : readMembers fields draft first s = .ok (d, r)) :
    r.length ≤ s.length := by
  fun_induction readMembers fields draft first s with
  | case1 => cases h
  | case2 => cases h; exact Nat.le_refl _
  | case3 => cases h
  | case4 _ _ _ _ _ _ _ _ hlt ih => exact Nat.le_trans (ih h) (Nat.le_of_lt hlt)

/-! ## Arrays of fields -/

/-- Reads the given fields, of which the first has the given index, from the elements of an
array. -/
def readPositions {σ : Type} (expected : String) (index : Nat) (draft : σ) :
    List (Field σ) → List Char → Reading σ
  | [], s => .ok (draft, s)
  | field :: fields, s =>
    match nextElement (index == 0) s with
    | .error e => .error e
    | .ok none =>
      if field.required then failAt (.wrongLength index expected) ((skipSpace s).drop 1)
      else readPositions expected (index + 1) draft fields s
    | .ok (some t) =>
      match field.reader.read t with
      | .error e => .error e
      | .ok (put, rest) => readPositions expected (index + 1) (put draft) fields rest

theorem length_readPositions {σ : Type} {expected : String} {index : Nat} {draft d : σ}
    {fields : List (Field σ)} {s r : List Char}
    (h : readPositions expected index draft fields s = .ok (d, r)) : r.length ≤ s.length := by
  induction fields generalizing index draft s with
  | nil => cases h; exact Nat.le_refl _
  | cons field fields ih =>
    rw [readPositions] at h
    split at h
    · cases h
    · split at h
      · cases h
      · exact ih h
    · next t hn =>
      have h1 := length_nextElement hn
      split at h
      · cases h
      · next hv =>
        have h2 := field.reader.shorter hv
        have h3 := ih h
        omega

/-! ## Records -/

/-- What error texts expect of an array. -/
def Schema.expectedLength {σ α : Type} (schema : Schema σ α) : String :=
  let n := schema.fields.length
  let noun := if n == 1 then "element" else "elements"
  s!"{schema.title} with {n} {noun}"

/-- Reads a record from the inside of an object. -/
def Schema.readObject {σ α : Type} (schema : Schema σ α) (s : List Char) : Reading α :=
  match readMembers schema.fields schema.blank true s with
  | .error e => .error e
  | .ok (draft, rest) =>
    match schema.fields.find? fun field => field.required && !field.given draft with
    | some field => failAt (.missingField field.name) (pastObject rest)
    | none => (endObject rest).map (schema.finish draft, ·)

/-- Reads a record from the inside of an array. -/
def Schema.readList {σ α : Type} (schema : Schema σ α) (s : List Char) : Reading α :=
  match readPositions schema.expectedLength 0 schema.blank schema.fields s with
  | .error e => .error e
  | .ok (draft, rest) => (endList rest).map (schema.finish draft, ·)

/-- Reads a record. -/
def Schema.reader {σ α : Type} (schema : Schema σ α) : Reader α where
  read s :=
    match skipSpace s with
    | [] => failAt .endInValue []
    | '[' :: r => schema.readList r
    | '\x7b' :: r => schema.readObject r
    | t => mismatch schema.title t
  shorter {s r a} h := by
    have hs := length_skipSpace_le s
    split at h
    · cases h
    · next t ht =>
      rw [ht, List.length_cons] at hs
      unfold Schema.readList at h
      split at h
      · cases h
      · next rest hp =>
        have h1 := length_readPositions hp
        cases he : endList rest with
        | error e => simp [he, Except.map] at h
        | ok p =>
          have h2 := length_endList he
          simp only [he, Except.map] at h
          obtain ⟨-, rfl⟩ := Prod.mk.inj (Except.ok.inj h)
          omega
    · next t ht =>
      rw [ht, List.length_cons] at hs
      unfold Schema.readObject at h
      split at h
      · cases h
      · next rest hp =>
        have h1 := length_readMembers hp
        split at h
        · cases h
        · cases he : endObject rest with
          | error e => simp [he, Except.map] at h
          | ok p =>
            have h2 := length_endObject he
            simp only [he, Except.map] at h
            obtain ⟨-, rfl⟩ := Prod.mk.inj (Except.ok.inj h)
            omega
    · unfold mismatch at h
      split at h <;> cases h

end DeviceFleet.Json
