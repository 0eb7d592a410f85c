/-
# Reading records is local

Passing over a value, and reading one of a record's fields, does not look beyond the first character
that it leaves.  An array or an object ends by itself, so a record that has been read is the same
whatever follows it (`Schema.delimited_reader`), and from this follows the result of this file,
`Reader.Delimited.decode_prefix`: a text that has been cut off anywhere before its last character
that is no space cannot be decoded any more.
-/
import DeviceFleet.Json.Record
import DeviceFleet.Proofs.Json.ScalarLocality
import Mathlib.Data.List.TakeWhile

namespace DeviceFleet.Json

variable {s r t : List Char}

/-! ## Passing over values -/

lemma skipKey_append (h : skipKey s = .ok r) : skipKey (s ++ t) = .ok (r ++ t) := by
  unfold skipKey at h
  split at h
  · cases h
  · next body hquote =>
    split at h
    · cases h
    · next rest hbody =>
      split at h
      · cases h
      · next hcolon =>
        obtain rfl := Except.ok.inj h
        simp only [skipKey, skipSpace_append hquote, skipBody_append hbody,
          skipSpace_append hcolon]
      · cases h
  · cases h

section Steps

variable {around : List Bracket} {b : Bracket} {c : Char}

/-- What passing over a value does at the character where the value starts. -/
lemma skipNested_of_skipSpace (hs : skipSpace s = c :: r) :
    skipNested around s =
      match bracket? c with
      | some b => skipFirst b around r
      | none =>
        match skipScalar (c :: r) with
        | .error e => .error e
        | .ok rest => skipAfter around rest := by
  rw [skipNested]
  split
  · simp_all
  · next hs' =>
    rw [hs] at hs'
    obtain ⟨rfl, rfl⟩ := List.cons.inj hs'
    cases bracket? c with
    | some b => rfl
    | none =>
      dsimp only
      split <;> simp_all

/-- What it does at the first character inside of a bracket. -/
lemma skipFirst_of_skipSpace (hs : skipSpace s = c :: r) :
    skipFirst b around s =
      if c = b.closing then skipAfter around r
      else
        match b with
        | .list => skipNested (b :: around) s
        | .object =>
          match skipKey s with
          | .error e => .error e
          | .ok rest => skipNested (b :: around) rest := by
  unfold skipFirst
  split
  · simp_all
  · next hs' =>
    rw [hs] at hs'
    obtain ⟨rfl, rfl⟩ := List.cons.inj hs'
    refine if_congr Iff.rfl rfl ?_
    cases b with
    | list => rfl
    | object =>
      dsimp only
      split <;> simp_all

/-- What it does at the character after a value inside of a bracket. -/
lemma skipAfter_of_skipSpace (hs : skipSpace s = c :: r) :
    skipAfter (b :: around) s =
      if c = ',' then
        match b with
        | .list => skipNested (b :: around) r
        | .object =>
          match skipKey r with
          | .error e => .error e
          | .ok rest => skipNested (b :: around) rest
      else if c = b.closing then skipAfter around r
      else failNext b.unseparated (c :: r) := by
  rw [skipAfter]
  split
  · simp_all
  · next hs' =>
    rw [hs] at hs'
    obtain ⟨rfl, rfl⟩ := List.cons.inj hs'
    refine if_congr Iff.rfl ?_ rfl
    cases b with
    | list => rfl
    | object =>
      dsimp only
      split <;> simp_all

end Steps

mutual

lemma skipNested_append {around : List Bracket} {s r t : List Char}
    (h : skipNested around s = .ok r) (hr : r ≠ []) :
    skipNested around (s ++ t) = .ok (r ++ t) := by
  cases hs : skipSpace s with
  | nil =>
    unfold skipNested at h
    split at h <;> simp_all [failAt]
  | cons c inside =>
    have hlt := length_lt_of_skipSpace hs
    rw [skipNested_of_skipSpace hs] at h
    rw [skipNested_of_skipSpace (skipSpace_append hs)]
    split at h
    · exact skipFirst_append h hr
    · split at h
      · cases h
      · next rest hrest =>
        have hlt' : rest.length < inside.length + 1 := length_skipScalar hrest
        have hne := ne_nil_of_length_le (length_skipAfter h) hr
        simp only [← List.cons_append, skipScalar_append hrest hne]
        exact skipAfter_append h hr
termination_by (s.length, 1)

lemma skipFirst_append {b : Bracket} {around : List Bracket} {s r t : List Char}
    (h : skipFirst b around s = .ok r) (hr : r ≠ []) :
    skipFirst b around (s ++ t) = .ok (r ++ t) := by
  cases hs : skipSpace s with
  | nil =>
    unfold skipFirst at h
    split at h <;> simp_all [failAt]
  | cons c inside =>
    have hlt := length_lt_of_skipSpace hs
    rw [skipFirst_of_skipSpace hs] at h
    rw [skipFirst_of_skipSpace (skipSpace_append hs)]
    split at h
    · next hc =>
      rw [if_pos hc]
      exact skipAfter_append h hr
    · next hc =>
      rw [if_neg hc]
      cases b with
      | list => exact skipNested_append h hr
      | object =>
        dsimp only at h
        split at h
        · cases h
        · next rest hrest =>
          have hlt' := length_skipKey hrest
          simp only [skipKey_append hrest]
          exact skipNested_append h hr
termination_by (s.length, 2)

lemma skipAfter_append {around : List Bracket} {s r t : List Char}
    (h : skipAfter around s = .ok r) (hr : r ≠ []) :
    skipAfter around (s ++ t) = .ok (r ++ t) := by
  cases around with
  | nil =>
    rw [skipAfter] at h ⊢
    rw [Except.ok.inj h]
  | cons b outer =>
    cases hs : skipSpace s with
    | nil =>
      rw [skipAfter] at h
      split at h <;> simp_all [failAt]
    | cons c inside =>
      have hlt := length_lt_of_skipSpace hs
      rw [skipAfter_of_skipSpace hs] at h
      rw [skipAfter_of_skipSpace (skipSpace_append hs)]
      split at h
      · next hc =>
        rw [if_pos hc]
        cases b with
        | list => exact skipNested_append h hr
        | object =>
          dsimp only at h
          split at h
          · cases h
          · next rest hrest =>
            have hlt' := length_skipKey hrest
            simp only [skipKey_append hrest]
            exact skipNested_append h hr
      · next hc =>
        rw [if_neg hc]
        split at h
        · next hclose =>
          rw [if_pos hclose]
          exact skipAfter_append h hr
        · cases h
termination_by (s.length, 0)

end

lemma skipValue_append (h : skipValue s = .ok r) (hr : r ≠ []) :
    skipValue (s ++ t) = .ok (r ++ t) :=
  skipNested_append h hr

/-! ## Readers -/

section Readers

variable {α β : Type} {reader : Reader α} {a : α}

/-- What is read does not depend on what follows the first character that is left. -/
def Reader.Local (reader : Reader α) : Prop :=
  ∀ {s r t : List Char} {a : α}, reader.read s = .ok (a, r) → r ≠ [] →
    reader.read (s ++ t) = .ok (a, r ++ t)

/-- Values end by themselves: what is read does not depend on anything that is left. -/
def Reader.Delimited (reader : Reader α) : Prop :=
  ∀ {s r t : List Char} {a : α}, reader.read s = .ok (a, r) →
    reader.read (s ++ t) = .ok (a, r ++ t)

lemma Reader.Delimited.toLocal (h : reader.Delimited) : reader.Local := fun hread _ => h hread

lemma Reader.Local.map (h : reader.Local) (f : α → β) : (reader.map f).Local := by
  intro s r t b hread hr
  simp only [Reader.map] at hread ⊢
  split at hread
  · cases hread
  · next ha =>
    obtain ⟨rfl, rfl⟩ := Prod.mk.inj (Except.ok.inj hread)
    rw [h ha hr]

/-- A mismatch is never a reading. -/
lemma mismatch_ne_ok {expected : String} {p : α} : mismatch expected s ≠ .ok p := by
  intro h
  unfold mismatch at h
  split at h <;> cases h

lemma delimited_textReader : textReader.Delimited := by
  intro s r t a h
  simp only [textReader] at h ⊢
  split at h
  · cases h
  · next body hquote =>
    obtain ⟨⟨text, rest⟩, hbody, hread⟩ := exists_of_map_eq_ok h
    obtain ⟨rfl, rfl⟩ := Prod.mk.inj hread
    simp only [skipSpace_append hquote, readBody_append hbody, Except.map]
  · exact absurd h mismatch_ne_ok

lemma portOf_append {n : Number} {port : UInt16} (h : portOf n s = .ok (port, r)) :
    portOf n (s ++ t) = .ok (port, r ++ t) ∧ r = s := by
  unfold portOf at h
  split at h
  · split at h
    · next hsmall =>
      obtain ⟨rfl, rfl⟩ := Prod.mk.inj (Except.ok.inj h)
      exact ⟨by rw [portOf, if_pos hsmall], rfl⟩
    · cases h
  · cases h
  · cases h

lemma local_portReader : portReader.Local := by
  intro s r t port h hr
  simp only [portReader] at h ⊢
  split at h
  · cases h
  · next c digits hc =>
    rw [skipSpace_append hc]
    split at h
    · next hdigit =>
      split at h
      · cases h
      · next n rest hn =>
        obtain ⟨happend, rfl⟩ := portOf_append (t := t) h
        simp only [if_pos hdigit, ← List.cons_append, readNumber_append hn hr, happend]
    · exact absurd h mismatch_ne_ok

end Readers

/-! ## Arrays and objects -/

lemma nextElement_append {first : Bool} {rest : Option (List Char)}
    (h : nextElement first s = .ok rest) :
    nextElement first (s ++ t) = .ok (rest.map (· ++ t)) := by
  unfold nextElement at h
  split at h
  · cases h
  · next hclose =>
    obtain rfl := Except.ok.inj h
    simp only [nextElement, skipSpace_append hclose, Option.map_none]
  · next c inside hclose hs =>
    rw [nextElement, skipSpace_append hs]
    split at h
    · next hfirst =>
      obtain rfl := Except.ok.inj h
      simp only [if_pos hfirst, Option.map_some, List.cons_append]
    · next hfirst =>
      split at h
      · next hcomma =>
        simp only [if_neg hfirst, if_pos hcomma]
        split at h
        · cases h
        · cases h
        · next hempty hclose' =>
          obtain rfl := Except.ok.inj h
          obtain ⟨d, beyond, hd⟩ := List.exists_cons_of_ne_nil hempty
          have hd' : d ≠ ']' := fun heq => hclose' beyond (by rw [hd, heq])
          rw [skipSpace_append hd, hd]
          simp only [Option.map_some, List.cons_append]
          split
          · next hnil => cases hnil
          · next hcons => exact absurd (List.cons.inj hcons).1 hd'
          · rfl
      · cases h

lemma endList_append (h : endList s = .ok r) : endList (s ++ t) = .ok (r ++ t) := by
  unfold endList at h
  split at h
  · cases h
  · next hclose =>
    obtain rfl := Except.ok.inj h
    simp only [endList, skipSpace_append hclose]
  · split at h <;> cases h
  · cases h

lemma nextKey_append {first : Bool} {rest : Option (List Char)} (h : nextKey first s = .ok rest) :
    nextKey first (s ++ t) = .ok (rest.map (· ++ t)) := by
  unfold nextKey at h
  split at h
  · cases h
  · next c inside hs =>
    simp only [nextKey, skipSpace_append hs]
    split at h
    · next hclose =>
      obtain rfl := Except.ok.inj h
      rw [if_pos hclose, Option.map_none]
    · next hclose =>
      rw [if_neg hclose]
      split at h
      · next hfirst =>
        rw [if_pos hfirst]
        split at h
        · next hquote =>
          obtain rfl := Except.ok.inj h
          rw [if_pos hquote, Option.map_some]
        · cases h
      · next hfirst =>
        rw [if_neg hfirst]
        split at h
        · next hcomma =>
          rw [if_pos hcomma]
          split at h
          · cases h
          · next d beyond hd =>
            rw [skipSpace_append hd]
            split at h
            · next hquote =>
              obtain rfl := Except.ok.inj h
              simp only [if_pos hquote, Option.map_some]
            · split at h <;> cases h
        · cases h

lemma readColon_append (h : readColon s = .ok r) : readColon (s ++ t) = .ok (r ++ t) := by
  unfold readColon at h
  split at h
  · cases h
  · next hcolon =>
    obtain rfl := Except.ok.inj h
    simp only [readColon, skipSpace_append hcolon]
  · cases h

lemma endObject_append (h : endObject s = .ok r) : endObject (s ++ t) = .ok (r ++ t) := by
  unfold endObject at h
  split at h
  · cases h
  · next c inside hs =>
    split at h
    · next hclose =>
      obtain rfl := Except.ok.inj h
      simp only [endObject, skipSpace_append hs, if_pos hclose]
    · split at h <;> cases h

/-! ## Members and positions -/

section Fields

variable {σ : Type} {fields : List (Field σ)} {draft d : σ}

lemma readInto_append {field : Field σ} (hfield : field.reader.Local)
    (h : field.readInto draft s = .ok (d, r)) (hr : r ≠ []) :
    field.readInto draft (s ++ t) = .ok (d, r ++ t) := by
  unfold Field.readInto at h
  split at h
  · cases h
  · next hgiven =>
    rw [Field.readInto, if_neg hgiven]
    split at h
    · cases h
    · next hcolon =>
      rw [readColon_append hcolon]
      split at h
      · cases h
      · next hread =>
        obtain ⟨rfl, rfl⟩ := Prod.mk.inj (Except.ok.inj h)
        simp only [hfield hread hr]

lemma skipMember_append (h : skipMember draft s = .ok (d, r)) (hr : r ≠ []) :
    skipMember draft (s ++ t) = .ok (d, r ++ t) := by
  unfold skipMember at h
  split at h
  · cases h
  · next value hcolon =>
    obtain ⟨rest, hskip, hread⟩ := exists_of_map_eq_ok h
    obtain ⟨rfl, rfl⟩ := Prod.mk.inj hread
    simp only [skipMember, readColon_append hcolon, skipValue_append hskip hr, Except.map]

lemma readMember_append (hfields : ∀ field ∈ fields, field.reader.Local)
    (h : readMember fields draft s = .ok (d, r)) (hr : r ≠ []) :
    readMember fields draft (s ++ t) = .ok (d, r ++ t) := by
  unfold readMember at h
  split at h
  · cases h
  · next key rest hkey =>
    rw [readMember, readBody_append hkey]
    split at h
    · next field hfind =>
      simp only [hfind]
      exact readInto_append (hfields field (List.mem_of_find?_eq_some hfind)) h hr
    · next hfind =>
      simp only [hfind]
      exact skipMember_append h hr

lemma readMembers_of_end {first : Bool} (h : nextKey first s = .ok none) :
    readMembers fields draft first s = .ok (draft, s) := by
  rw [readMembers]
  split <;> simp_all

lemma readMembers_of_member {first : Bool} {inside : List Char} {e : σ}
    (h : nextKey first s = .ok (some inside))
    (hmember : readMember fields draft inside = .ok (e, r)) :
    readMembers fields draft first s = readMembers fields e false r := by
  rw [readMembers]
  split
  · simp_all
  · simp_all
  · next hkey =>
    rw [h] at hkey
    obtain rfl := Option.some.inj (Except.ok.inj hkey)
    split <;> simp_all

/-- Members are followed by the end of their object. -/
lemma ne_nil_of_readMembers {first : Bool} (h : readMembers fields draft first s = .ok (d, r)) :
    s ≠ [] := by
  rintro rfl
  rw [readMembers] at h
  split at h
  · cases h
  · next hend => cases hend
  · next hkey => cases hkey

lemma readMembers_append {first : Bool} (hfields : ∀ field ∈ fields, field.reader.Local)
    (h : readMembers fields draft first s = .ok (d, r)) :
    readMembers fields draft first (s ++ t) = .ok (d, r ++ t) := by
  fun_induction readMembers fields draft first s with
  | case1 => cases h
  | case2 draft first s hend =>
    obtain ⟨rfl, rfl⟩ := Prod.mk.inj (Except.ok.inj h)
    exact readMembers_of_end (nextKey_append hend)
  | case3 => cases h
  | case4 draft first s inside hkey e rest hmember hlt ih =>
    -- a comma or the end of the object follows a member, so something is left after its value
    rw [readMembers_of_member (nextKey_append hkey)
      (readMember_append hfields hmember (ne_nil_of_readMembers h))]
    exact ih h

lemma readPositions_append {expected : String} {index : Nat}
    (hfields : ∀ field ∈ fields, field.reader.Local)
    (h : readPositions expected index draft fields s = .ok (d, r)) (hr : r ≠ []) :
    readPositions expected index draft fields (s ++ t) = .ok (d, r ++ t) := by
  induction fields generalizing index draft s with
  | nil =>
    obtain ⟨rfl, rfl⟩ := Prod.mk.inj (Except.ok.inj h)
    rfl
  | cons field fields ih =>
    obtain ⟨hfield, hothers⟩ := List.forall_mem_cons.mp hfields
    rw [readPositions] at h ⊢
    split at h
    · cases h
    · next hend =>
      rw [nextElement_append hend]
      split at h
      · cases h
      · next hoptional =>
        simp only [Option.map_none, if_neg hoptional]
        exact ih hothers h
    · next inside helement =>
      rw [nextElement_append helement]
      split at h
      · cases h
      · next put rest hread =>
        have hrest := ne_nil_of_length_le (length_readPositions h) hr
        simp only [Option.map_some, hfield hread hrest]
        exact ih hothers h

end Fields

/-! ## Records -/

section Records

variable {σ α β : Type}

lemma local_of {name : String} {required : Bool} {reader : Reader β} {get : σ → Option β}
    {put : β → σ → σ} (h : reader.Local) : (Field.of name required reader get put).reader.Local :=
  h.map put

variable {schema : Schema σ α} {a : α}

lemma readList_append (hfields : ∀ field ∈ schema.fields, field.reader.Local)
    (h : schema.readList s = .ok (a, r)) : schema.readList (s ++ t) = .ok (a, r ++ t) := by
  unfold Schema.readList at h
  split at h
  · cases h
  · next draft rest hpositions =>
    obtain ⟨beyond, hend, hread⟩ := exists_of_map_eq_ok h
    obtain ⟨rfl, rfl⟩ := Prod.mk.inj hread
    -- the closing bracket is left when the fields have been read
    have hrest : rest ≠ [] := List.ne_nil_of_length_pos (Nat.zero_lt_of_lt (length_endList hend))
    rw [Schema.readList, readPositions_append hfields hpositions hrest]
    simp only [endList_append hend, Except.map]

lemma readObject_append (hfields : ∀ field ∈ schema.fields, field.reader.Local)
    (h : schema.readObject s = .ok (a, r)) : schema.readObject (s ++ t) = .ok (a, r ++ t) := by
  unfold Schema.readObject at h
  split at h
  · cases h
  · next draft rest hmembers =>
    rw [Schema.readObject, readMembers_append hfields hmembers]
    split at h
    · cases h
    · next hmissing =>
      obtain ⟨beyond, hend, hread⟩ := exists_of_map_eq_ok h
      obtain ⟨rfl, rfl⟩ := Prod.mk.inj hread
      simp only [hmissing, endObject_append hend, Except.map]

/-- A record ends by itself, if what its fields read is local. -/
lemma Schema.delimited_reader (hfields : ∀ field ∈ schema.fields, field.reader.Local) :
    schema.reader.Delimited := by
  intro s r t a h
  simp only [Schema.reader] at h ⊢
  split at h
  · cases h
  · next inside hopen =>
    rw [skipSpace_append hopen]
    exact readList_append hfields h
  · next inside hopen =>
    rw [skipSpace_append hopen]
    exact readObject_append hfields h
  · exact absurd h mismatch_ne_ok

end Records

/-! ## Whole texts -/

lemma skipSpace_eq_nil_iff : skipSpace s = [] ↔ ∀ c ∈ s, isSpace c = true :=
  List.dropWhile_eq_nil_iff

/-- A text of which more than space has been cut off cannot be decoded. -/
lemma Reader.Delimited.decode_prefix {α : Type} {reader : Reader α} (h : reader.Delimited) {a : α}
    (hwhole : reader.decode (s ++ t) = .ok a) (hcut : ∃ c ∈ t, isSpace c = false) :
    ∃ e, reader.decode s = .error e := by
  cases hs : reader.decode s with
  | error e => exact ⟨e, rfl⟩
  | ok b =>
    exfalso
    unfold Reader.decode at hs
    split at hs
    · cases hs
    · next value rest hread =>
      rw [Reader.decode, h hread] at hwhole
      simp only at hwhole
      split at hwhole
      · next hspace =>
        obtain ⟨c, hc, hnot⟩ := hcut
        have := skipSpace_eq_nil_iff.mp hspace c (List.mem_append_right _ hc)
        rw [this] at hnot
        cases hnot
      · cases hwhole

end DeviceFleet.Json
