/-
# Records and what their fields stand for

A record is described by a rule for each of its fields: the key, which values stand for which
contents, and the default of a field that may be missing.  An object stands for a record if its keys
are texts and each field is what the one value of its key stands for, or its default if the key does
not occur; an array stands for what the object with the same values under the keys in order stands
for (`Denotes`).

A schema keeps the contents of each field in a part of its drafts that the other fields do not touch
(`Layout`).  What members do to a draft can then be told field by field, and so the reader of the
schema follows the rules (`Layout.follows`).
-/
import DeviceFleet.Proofs.Json.Spelling
import Mathlib.Data.List.Nodup

namespace DeviceFleet.Json

variable {s t gap rest : List Char}

/-- What is on the left of a relation between lists is related to something on the right. -/
lemma exists_of_forall₂ {α β : Type} {R : α → β → Prop} {as : List α} {bs : List β}
    (h : List.Forall₂ R as bs) {a : α} (ha : a ∈ as) : ∃ b ∈ bs, R a b := by
  induction h with
  | nil => simp at ha
  | @cons a' b as bs hab _ ih =>
    rcases List.mem_cons.mp ha with rfl | ha
    · exact ⟨b, List.mem_cons_self, hab⟩
    · obtain ⟨b', hb', hab'⟩ := ih ha
      exact ⟨b', List.mem_cons_of_mem b hb', hab'⟩

/-! ## Rules -/

/-- The values of a key among members. -/
def valuesOf (key : String) (ms : List (Option String × Value)) : List Value :=
  (ms.filter fun m => m.1 = some key).map Prod.snd

/-- The members with the given keys and values, as far as there are both. -/
def inOrder (keys : List String) (vs : List Value) : List (Option String × Value) :=
  (keys.map some).zip vs

lemma ne_none_of_mem_inOrder {keys : List String} {vs : List Value} :
    ∀ m ∈ inOrder keys vs, m.1 ≠ none := by
  intro m hm hnone
  obtain ⟨key, -, hkey⟩ := List.mem_map.mp (List.of_mem_zip hm).1
  rw [hnone] at hkey
  cases hkey

/-- What a field of a record stands for. -/
structure FieldRule (α : Type) where
  /-- Its key. -/
  key : String
  /-- The type of its contents. -/
  Content : Type
  /-- The contents that a value stands for. -/
  stands : Value → Content → Prop
  /-- The contents if the key does not occur; without default it has to. -/
  default? : Option Content
  /-- The contents in a record. -/
  part : α → Content

namespace FieldRule

variable {α : Type}

/-- A field that holds a string. -/
abbrev text (key : String) (default? : Option String) (part : α → String) : FieldRule α :=
  ⟨key, String, Value.IsText, default?, part⟩

/-- The record has what the values of the key stand for: one value, or none and the default. -/
def Holds (rule : FieldRule α) (a : α) : List Value → Prop
  | [] => rule.default? = some (rule.part a)
  | [v] => rule.stands v (rule.part a)
  | _ :: _ :: _ => False

/-- Some contents are what the values of the key stand for. -/
def Admits (rule : FieldRule α) : List Value → Prop
  | [] => rule.default? ≠ none
  | [v] => ∃ b, rule.stands v b
  | _ :: _ :: _ => False

/-- What a record has is admitted. -/
lemma Holds.admits {rule : FieldRule α} {a : α} {vs : List Value} (h : rule.Holds a vs) :
    rule.Admits vs := by
  rcases vs with _ | ⟨v, _ | ⟨w, vs⟩⟩
  · rw [Holds] at h
    rw [Admits, h]
    exact Option.some_ne_none _
  · exact ⟨_, h⟩
  · exact h

end FieldRule

/-- The record that a value stands for. -/
def Denotes {α : Type} (rules : List (FieldRule α)) : Value → α → Prop
  | .object ms, a =>
    (∀ m ∈ ms, m.1 ≠ none) ∧ ∀ rule ∈ rules, rule.Holds a (valuesOf rule.key ms)
  | .list vs, a =>
    vs.length ≤ rules.length ∧
      ∀ rule ∈ rules, rule.Holds a (valuesOf rule.key (inOrder (rules.map FieldRule.key) vs))
  | _, _ => False

section Values

variable {key : String} {v : Value} {ms : List (Option String × Value)}

lemma valuesOf_cons_of_eq : valuesOf key ((some key, v) :: ms) = v :: valuesOf key ms := by
  simp [valuesOf]

lemma valuesOf_cons_of_ne {name : Option String} (h : name ≠ some key) :
    valuesOf key ((name, v) :: ms) = valuesOf key ms := by
  simp [valuesOf, h]

lemma mem_of_mem_valuesOf (h : v ∈ valuesOf key ms) : ∃ m ∈ ms, m.2 = v := by
  obtain ⟨m, hm, rfl⟩ := List.mem_map.mp h
  exact ⟨m, (List.mem_filter.mp hm).1, rfl⟩

end Values

/-! ## Parts of drafts -/

/-- A field of a record, and the part of a draft that it is kept in. -/
structure Slot (σ α : Type) extends FieldRule α where
  /-- Reads its values. -/
  reader : Reader Content
  /-- It reads what they stand for. -/
  follows : reader.Follows stands
  /-- Its contents in a draft, once they have been read. -/
  get : σ → Option Content
  /-- Puts contents into a draft. -/
  put : Content → σ → σ

namespace Slot

variable {σ α : Type}

/-- The field as its schema has it. -/
def field (slot : Slot σ α) : Field σ :=
  .of slot.key slot.default?.isNone slot.reader slot.get slot.put

/-- A field that holds a string. -/
abbrev text (key : String) (default? : Option String) (part : α → String) (get : σ → Option String)
    (put : String → σ → σ) : Slot σ α :=
  ⟨.text key default? part, textReader, follows_text, get, put⟩

/-- What values of its key do to its part of a draft: one value is put into it if it is empty. -/
def Fits (slot : Slot σ α) : List Value → Option slot.Content → Option slot.Content → Prop
  | [], before, after => after = before
  | [v], none, some b => slot.stands v b
  | _, _, _ => False

/-- Fields with different keys, kept apart from each other. -/
structure Apart (slots : List (Slot σ α)) : Prop where
  /-- No key occurs twice. -/
  nodup : (slots.map fun slot => slot.key).Nodup
  /-- What is put into a part is in it. -/
  get_put : ∀ slot ∈ slots, ∀ b draft, slot.get (slot.put b draft) = some b
  /-- The other parts are as they were. -/
  get_put_of_ne : ∀ slot ∈ slots, ∀ other ∈ slots, slot.key ≠ other.key →
    ∀ b draft, slot.get (other.put b draft) = slot.get draft

/-- The members fit a draft into another one: their keys are texts and the values of each key fit
the part of its field. -/
structure Moves (slots : List (Slot σ α)) (draft : σ) (ms : List (Option String × Value))
    (d : σ) : Prop where
  /-- The keys are texts. -/
  keys : ∀ m ∈ ms, m.1 ≠ none
  /-- The values fit. -/
  fits : ∀ slot ∈ slots, slot.Fits (valuesOf slot.key ms) (slot.get draft) (slot.get d)

/-- The members can be fitted into a draft. -/
structure Welcomes (slots : List (Slot σ α)) (draft : σ) (ms : List (Option String × Value)) :
    Prop where
  /-- The keys are texts. -/
  keys : ∀ m ∈ ms, m.1 ≠ none
  /-- The values fit. -/
  fits : ∀ slot ∈ slots, ∃ after, slot.Fits (valuesOf slot.key ms) (slot.get draft) after

variable {slot : Slot σ α} {slots : List (Slot σ α)} {draft d : σ} {v : Value} {vs : List Value}
  {ms : List (Option String × Value)} {b : slot.Content}

lemma not_fits_given {after : Option slot.Content} : ¬ slot.Fits (v :: vs) (some b) after := by
  cases vs <;> simp [Fits]

/-- A first value is put into the part, and no other follows. -/
lemma fits_cons_iff {after : Option slot.Content} :
    slot.Fits (v :: vs) none after ↔ vs = [] ∧ ∃ b, slot.stands v b ∧ after = some b := by
  rcases vs with _ | ⟨w, vs⟩
  · cases after <;> simp [Fits]
  · simp [Fits]

/-- Two fields with one key are one field. -/
lemma Apart.eq_of_key (h : Apart slots) {other : Slot σ α} (hslot : slot ∈ slots)
    (hother : other ∈ slots) (hkey : slot.key = other.key) : slot = other :=
  List.inj_on_of_nodup_map h.nodup hslot hother hkey

/-- What is put into the part of one field does not fill the others. -/
lemma Apart.get_put_eq_none {all : List (Slot σ α)} (h : Apart all)
    (hall : ∀ slot ∈ slots, slot ∈ all) (hslot : slot ∈ all)
    (hkey : slot.key ∉ slots.map fun slot => slot.key)
    (hnew : ∀ slot ∈ slots, slot.get draft = none) (b : slot.Content) :
    ∀ other ∈ slots, other.get (slot.put b draft) = none := by
  intro other hother
  have hne : other.key ≠ slot.key := by
    intro heq
    exact hkey (List.mem_map.mpr ⟨other, hother, heq⟩)
  rw [h.get_put_of_ne other (hall other hother) slot hslot hne, hnew other hother]

/-! ### One member more -/

lemma Moves.cons_unknown {key : String} (hkey : ∀ slot ∈ slots, slot.key ≠ key)
    (h : Moves slots draft ms d) : Moves slots draft ((some key, v) :: ms) d where
  keys := List.forall_mem_cons.mpr ⟨Option.some_ne_none key, h.keys⟩
  fits other hother := by
    have hne : some key ≠ some other.key := fun heq => hkey other hother (Option.some.inj heq).symm
    rw [valuesOf_cons_of_ne hne]
    exact h.fits other hother

lemma Welcomes.of_cons_unknown {key : String} (hkey : ∀ slot ∈ slots, slot.key ≠ key)
    (h : Welcomes slots draft ((some key, v) :: ms)) : Welcomes slots draft ms where
  keys := (List.forall_mem_cons.mp h.keys).2
  fits other hother := by
    have hne : some key ≠ some other.key := fun heq => hkey other hother (Option.some.inj heq).symm
    have hfits := h.fits other hother
    rwa [valuesOf_cons_of_ne hne] at hfits

/-- A value is put into an empty part, and the other members are fitted in behind it. -/
lemma Moves.cons_known (hapart : Apart slots) (hslot : slot ∈ slots)
    (hnew : slot.get draft = none) (hb : slot.stands v b)
    (h : Moves slots (slot.put b draft) ms d) :
    Moves slots draft ((some slot.key, v) :: ms) d where
  keys := List.forall_mem_cons.mpr ⟨Option.some_ne_none slot.key, h.keys⟩
  fits other hother := by
    have hfits := h.fits other hother
    by_cases hkey : other.key = slot.key
    · obtain rfl := hapart.eq_of_key hother hslot hkey
      rw [hapart.get_put other hother] at hfits
      rw [valuesOf_cons_of_eq, hnew, fits_cons_iff]
      rcases hvalues : valuesOf other.key ms with _ | ⟨w, ws⟩
      · rw [hvalues] at hfits
        exact ⟨rfl, b, hb, hfits⟩
      · rw [hvalues] at hfits
        exact absurd hfits not_fits_given
    · have hne : some slot.key ≠ some other.key := fun heq => hkey (Option.some.inj heq).symm
      rw [hapart.get_put_of_ne other hother slot hslot hkey] at hfits
      rwa [valuesOf_cons_of_ne hne]

lemma Welcomes.of_cons_known (hapart : Apart slots) (hslot : slot ∈ slots)
    (hnew : slot.get draft = none) (h : Welcomes slots draft ((some slot.key, v) :: ms)) :
    Welcomes slots (slot.put b draft) ms where
  keys := (List.forall_mem_cons.mp h.keys).2
  fits other hother := by
    obtain ⟨after, hfits⟩ := h.fits other hother
    by_cases hkey : other.key = slot.key
    · obtain rfl := hapart.eq_of_key hother hslot hkey
      rw [valuesOf_cons_of_eq, hnew, fits_cons_iff] at hfits
      rw [hapart.get_put other hother, hfits.1]
      exact ⟨some b, rfl⟩
    · have hne : some slot.key ≠ some other.key := fun heq => hkey (Option.some.inj heq).symm
      rw [hapart.get_put_of_ne other hother slot hslot hkey]
      rw [valuesOf_cons_of_ne hne] at hfits
      exact ⟨after, hfits⟩

/-! ### Members of objects -/

lemma find?_field (slots : List (Slot σ α)) (key : String) :
    (slots.map field).find? (fun field => field.name == key) =
      (slots.find? fun slot => slot.key == key).map field := by
  rw [List.find?_map]
  rfl

/-- A draft has a field if there is something in its part. -/
lemma given_field (slot : Slot σ α) (draft : σ) :
    slot.field.given draft = (slot.get draft).isSome :=
  rfl

/-- A field has to occur if it has no default. -/
lemma required_field (slot : Slot σ α) : slot.field.required = slot.default?.isNone := rfl

/-- What one member does: it is refused and does not fit, or it is put into the draft, and the
others fit if they fit behind it. -/
inductive Handles (slots : List (Slot σ α)) (draft : σ) (m : Option String × Value)
    (p : List Char) : Prop
  | refused (hpart : AnswersPart (slots.map field) draft none p)
      (hnot : ∀ ms, ¬ Welcomes slots draft (m :: ms))
  | taken {e : σ} (hpart : AnswersPart (slots.map field) draft (some e) p)
      (hmoves : ∀ ms d, Moves slots e ms d → Moves slots draft (m :: ms) d)
      (hwelcomes : ∀ ms, Welcomes slots draft (m :: ms) → Welcomes slots e ms)

section Handles

variable {key : String} {keyText valueText p : List Char}

/-- The value of no field is passed over. -/
lemma handles_unknown (hkey : StringText (some key) keyText) (hvalue : Spells v valueText)
    (hp : PairText keyText valueText p) (hfind : slots.find? (fun slot => slot.key == key) = none) :
    Handles slots draft (some key, v) p := by
  have hunknown : ∀ slot ∈ slots, slot.key ≠ key := by
    intro slot hslot
    simpa using List.find?_eq_none.mp hfind slot hslot
  have hfield : (slots.map field).find? (fun field => field.name == key) = none := by
    rw [find?_field, hfind, Option.map_none]
  refine .taken (answersPart_of_unknown hkey hp hfield hvalue.isValue) ?_ ?_
  · intro ms d h
    exact h.cons_unknown hunknown
  · intro ms h
    exact h.of_cons_unknown hunknown

/-- The value of a field that the draft lacks is put into it, if the reader of the field reads
it. -/
lemma handles_new (hapart : Apart slots) (hslot : slot ∈ slots)
    (hkey : StringText (some slot.key) keyText) (hvalue : Spells v valueText)
    (hp : PairText keyText valueText p)
    (hfield : (slots.map field).find? (fun field => field.name == slot.key) = some slot.field)
    (hget : slot.get draft = none) : Handles slots draft (some slot.key, v) p := by
  have hnew : slot.field.given draft = false := by rw [given_field, hget, Option.isSome_none]
  obtain ⟨content, hcontent, hstands⟩ := slot.follows v valueText hvalue
  have hpart := answersPart_of_new hkey hp hfield hnew (hcontent.map slot.put)
  rcases content with _ | b
  · refine .refused hpart fun ms h => ?_
    obtain ⟨after, hfits⟩ := h.fits slot hslot
    rw [valuesOf_cons_of_eq, hget, fits_cons_iff] at hfits
    obtain ⟨-, b, hb, -⟩ := hfits
    exact Option.some_ne_none b ((hstands b).mpr hb).symm
  · refine .taken hpart ?_ ?_
    · intro ms d h
      exact h.cons_known hapart hslot hget ((hstands b).mp rfl)
    · intro ms h
      exact h.of_cons_known hapart hslot hget

/-- A field that the draft has may not occur again. -/
lemma handles_given (hslot : slot ∈ slots) (hkey : StringText (some slot.key) keyText)
    (hp : PairText keyText valueText p)
    (hfield : (slots.map field).find? (fun field => field.name == slot.key) = some slot.field)
    (hget : slot.get draft = some b) : Handles slots draft (some slot.key, v) p := by
  have hgiven : slot.field.given draft = true := by rw [given_field, hget, Option.isSome_some]
  refine .refused (answersPart_of_given hkey hp hfield hgiven) fun ms h => ?_
  obtain ⟨after, hfits⟩ := h.fits slot hslot
  rw [valuesOf_cons_of_eq, hget] at hfits
  exact not_fits_given hfits

/-- A member is refused or put into the draft, whatever its key is. -/
lemma handles_of_spells (hapart : Apart slots) {m : Option String × Value}
    (hm : SpellsMember m p) (draft : σ) : Handles slots draft m p := by
  obtain ⟨name, v⟩ := m
  obtain ⟨keyText, valueText, hkey, hvalue, hp⟩ := hm
  rcases name with _ | key
  · refine .refused (answersPart_of_no_key hkey hp) fun ms h => ?_
    exact h.keys _ List.mem_cons_self rfl
  rcases hfind : slots.find? fun slot => slot.key == key with _ | slot
  · exact handles_unknown hkey hvalue hp hfind
  · have hfield : (slots.map field).find? (fun field => field.name == key) = some slot.field := by
      rw [find?_field, hfind, Option.map_some]
    have hslot := List.mem_of_find?_eq_some hfind
    obtain rfl : slot.key = key := by simpa using List.find?_some hfind
    rcases hget : slot.get draft with _ | b
    · exact handles_new hapart hslot hkey hvalue hp hfield hget
    · exact handles_given hslot hkey hp hfield hget

end Handles

/-- The members of an object are put into the draft one after the other, if they fit. -/
lemma exists_answersParts (hapart : Apart slots) {parts : List (List Char)}
    (hparts : List.Forall₂ SpellsMember ms parts) (draft : σ) :
    ∃ answer, AnswersParts (slots.map field) draft answer parts ∧
      (∀ d, answer = some d → Moves slots draft ms d) ∧
      (answer = none → ¬ Welcomes slots draft ms) := by
  induction hparts generalizing draft with
  | nil =>
    refine ⟨some draft, .nil, ?_, ?_⟩
    · rintro d ⟨⟩
      exact ⟨List.forall_mem_nil _, fun slot _ => rfl⟩
    · rintro ⟨⟩
  | @cons m p ms parts hm _ ih =>
    rcases handles_of_spells hapart hm draft with ⟨hrefused, hnot⟩ | ⟨hpart, hmoves, hwelcomes⟩
    · refine ⟨none, .refused hrefused, ?_, fun _ => hnot ms⟩
      rintro d ⟨⟩
    · obtain ⟨answer, hanswers, hothers, hnone⟩ := ih _
      refine ⟨answer, .cons hpart hanswers, ?_, ?_⟩
      · intro d hd
        exact hmoves ms d (hothers d hd)
      · intro h hw
        exact hnone h (hwelcomes ms hw)

/-! ### Elements of arrays -/

/-- Every field without default has a value. -/
def Supplied (slots : List (Slot σ α)) (ms : List (Option String × Value)) : Prop :=
  ∀ slot ∈ slots, valuesOf slot.key ms = [] → slot.default? ≠ none

/-- Fields that are read from an array, up to its end. -/
def readArray (expected : String) (index : Nat) (draft : σ) (fields : List (Field σ))
    (s : List Char) : Reading σ :=
  match readPositions expected index draft fields s with
  | .error e => .error e
  | .ok (d, r) => (endList r).map (d, ·)

section Arrays

variable {expected : String} {index : Nat} {f : Field σ} {fields : List (Field σ)} {r : List Char}

lemma readArray_of_end (h : nextElement (index == 0) s = .ok none) (hdefault : f.required = false) :
    readArray expected index draft (f :: fields) s =
      readArray expected (index + 1) draft fields s := by
  simp only [readArray, readPositions, h, hdefault, Bool.false_eq_true, if_false]

lemma exists_readArray_of_missing (h : nextElement (index == 0) s = .ok none)
    (hrequired : f.required = true) :
    ∃ e, readArray expected index draft (f :: fields) s = .error e := by
  simp only [readArray, readPositions, h, hrequired, if_true]
  exact ⟨_, rfl⟩

lemma readArray_of_element {put : σ → σ} (h : nextElement (index == 0) s = .ok (some t))
    (hread : f.reader.read t = .ok (put, r)) :
    readArray expected index draft (f :: fields) s =
      readArray expected (index + 1) (put draft) fields r := by
  simp only [readArray, readPositions, h, hread]

lemma exists_readArray_of_refused {e : Failure} (h : nextElement (index == 0) s = .ok (some t))
    (hread : f.reader.read t = .error e) :
    ∃ e, readArray expected index draft (f :: fields) s = .error e := by
  simp only [readArray, readPositions, h, hread]
  exact ⟨_, rfl⟩

end Arrays

/-- The fields are filled with values in order; those behind the last value need a default. -/
inductive Fills : List (Slot σ α) → List Value → σ → σ → Prop
  | done {draft : σ} : Fills [] [] draft draft
  | default {slot : Slot σ α} {slots : List (Slot σ α)} {draft d : σ}
      (hdefault : slot.default? ≠ none) (hothers : Fills slots [] draft d) :
      Fills (slot :: slots) [] draft d
  | value {slot : Slot σ α} {slots : List (Slot σ α)} {draft d : σ} {v : Value} {vs : List Value}
      {b : slot.Content} (hb : slot.stands v b) (hothers : Fills slots vs (slot.put b draft) d) :
      Fills (slot :: slots) (v :: vs) draft d

/-- An array is read, up to `rest`, as the draft that the values fill, if they fill one. -/
def ArrayRead (expected : String) (index : Nat) (slots : List (Slot σ α)) (vs : List Value)
    (draft : σ) (s rest : List Char) : Prop :=
  ∃ answer, (readArray expected index draft (slots.map field) s).toOption =
    answer.map (fun d => (d, rest)) ∧ ∀ d, answer = some d ↔ Fills slots vs draft d

section Steps

variable {expected : String} {index : Nat} {r : List Char}

lemma arrayRead_of_error {e : Failure}
    (h : readArray expected index draft (slots.map field) s = .error e)
    (hfills : ∀ d, ¬ Fills slots vs draft d) : ArrayRead expected index slots vs draft s rest := by
  refine ⟨none, congrArg _ h, fun d => ?_⟩
  simp only [reduceCtorEq, hfills d]

/-- Behind the last field, the array ends. -/
lemma arrayRead_done (hgap : Gap gap) :
    ArrayRead expected index ([] : List (Slot σ α)) [] draft (gap ++ ']' :: rest) rest := by
  have hread : readArray expected index draft [] (gap ++ ']' :: rest) = .ok (draft, rest) := by
    simp only [readArray, readPositions, endList_close hgap]
    rfl
  refine ⟨some draft, congrArg _ hread, fun d => ⟨?_, ?_⟩⟩
  · rintro ⟨⟩
    exact .done
  · rintro ⟨⟩
    rfl

/-- Behind the last field, no element is read. -/
lemma arrayRead_surplus (h : nextElement (index == 0) s = .ok (some r)) :
    ArrayRead expected index ([] : List (Slot σ α)) (v :: vs) draft s rest := by
  obtain ⟨e, he⟩ := exists_endList_error h
  have hread : readArray expected index draft [] s = .error e := by
    simp only [readArray, readPositions, he]
    rfl
  refine arrayRead_of_error hread fun d => ?_
  rintro ⟨⟩

/-- Behind the last element, a field has its default. -/
lemma arrayRead_end (h : nextElement (index == 0) s = .ok none)
    (hothers : ArrayRead expected (index + 1) slots [] draft s rest) :
    ArrayRead expected index (slot :: slots) [] draft s rest := by
  rcases hdefault : slot.default? with _ | b
  · have hrequired : slot.field.required = true := by rw [required_field, hdefault]; rfl
    obtain ⟨e, he⟩ := exists_readArray_of_missing h hrequired
    refine arrayRead_of_error he fun d => ?_
    rintro ⟨⟩
    contradiction
  · have hoptional : slot.field.required = false := by rw [required_field, hdefault]; rfl
    obtain ⟨answer, hanswer, hfills⟩ := hothers
    refine ⟨answer, (congrArg _ (readArray_of_end h hoptional)).trans hanswer, fun d => ?_⟩
    rw [hfills]
    constructor
    · exact .default (by rw [hdefault]; exact Option.some_ne_none b)
    · rintro ⟨⟩
      assumption

/-- A field is filled with an element, and the others with those behind it. -/
lemma arrayRead_element (hv : Spells v t) (h : nextElement (index == 0) s = .ok (some (t ++ r)))
    (hr : EndsNumber r) (hothers : ∀ d, ArrayRead expected (index + 1) slots vs d r rest) :
    ArrayRead expected index (slot :: slots) (v :: vs) draft s rest := by
  obtain ⟨content, hcontent, hstands⟩ := slot.follows v t hv
  have hput := (hcontent.map slot.put) [] r gap_nil hr
  rcases content with _ | b
  · obtain ⟨e, he⟩ := toOption_eq_none_iff.mp hput
    obtain ⟨e, he⟩ := exists_readArray_of_refused (f := slot.field) h he
    refine arrayRead_of_error he fun d => ?_
    rintro ⟨⟩
    next b hb _ => exact Option.some_ne_none b ((hstands b).mpr hb).symm
  · have hread : slot.field.reader.read (t ++ r) = .ok (slot.put b, r) :=
      toOption_eq_some_iff.mp hput
    obtain ⟨answer, hanswer, hfills⟩ := hothers (slot.put b draft)
    refine ⟨answer, (congrArg _ (readArray_of_element h hread)).trans hanswer, fun d => ?_⟩
    rw [hfills]
    constructor
    · exact .value ((hstands b).mp rfl)
    · rintro ⟨⟩
      next b' hb hothers =>
        obtain rfl := Option.some.inj ((hstands b').mpr hb)
        exact hothers

end Steps

/-- An array is read as the draft that its elements fill. -/
lemma arrayRead_of_elementsLeft {expected : String} {index : Nat} {ts : List (List Char)}
    (hts : List.Forall₂ Spells vs ts) (hopens : ∀ t ∈ ts, Opens t)
    (hleft : ElementsLeft rest (index == 0) ts s) :
    ArrayRead expected index slots vs draft s rest := by
  induction slots generalizing index draft vs ts s with
  | nil =>
    cases hts with
    | nil =>
      obtain ⟨gap, hgap, rfl⟩ := hleft.exists_gap
      exact arrayRead_done hgap
    | @cons v t vs ts hv hts =>
      obtain ⟨r, hnext, -, -⟩ := hleft.exists_next (hopens t List.mem_cons_self)
      exact arrayRead_surplus hnext
  | cons slot slots ih =>
    cases hts with
    | nil =>
      have hothers : ElementsLeft rest (index + 1 == 0) [] s := hleft.of_nil
      obtain ⟨gap, hgap, rfl⟩ := hleft.exists_gap
      exact arrayRead_end (nextElement_close hgap _ rest) (ih .nil hopens hothers)
    | @cons v t vs ts hv hts =>
      obtain ⟨ht, hopens⟩ := List.forall_mem_cons.mp hopens
      obtain ⟨r, hnext, hr, hothers⟩ := hleft.exists_next ht
      exact arrayRead_element hv hnext hr fun d => ih hts hopens hothers

/-! ### Arrays as members in order -/

lemma inOrder_nil (keys : List String) : inOrder keys [] = [] := List.zip_nil_right

lemma supplied_nil_iff : Supplied slots [] ↔ ∀ slot ∈ slots, slot.default? ≠ none := by
  simp [Supplied, valuesOf]

/-- A field with a value needs no default. -/
lemma supplied_cons_iff (h : slot.key ∉ slots.map fun slot => slot.key) :
    Supplied (slot :: slots) ((some slot.key, v) :: ms) ↔ Supplied slots ms := by
  have hne : ∀ other ∈ slots, some slot.key ≠ some other.key := by
    intro other hother heq
    exact h (List.mem_map.mpr ⟨other, hother, (Option.some.inj heq).symm⟩)
  rw [Supplied, List.forall_mem_cons, valuesOf_cons_of_eq]
  constructor
  · rintro ⟨-, hothers⟩ other hother hvalues
    exact hothers other hother (by rwa [valuesOf_cons_of_ne (hne other hother)])
  · intro hothers
    refine ⟨fun heq => absurd heq (List.cons_ne_nil _ _), fun other hother hvalues => ?_⟩
    rw [valuesOf_cons_of_ne (hne other hother)] at hvalues
    exact hothers other hother hvalues

/-- Values that fill the fields in order are members that move the draft. -/
lemma Fills.moves {all : List (Slot σ α)} (hapart : Apart all) (h : Fills slots vs draft d)
    (hall : ∀ slot ∈ slots, slot ∈ all) (hnodup : (slots.map fun slot => slot.key).Nodup)
    (hnew : ∀ slot ∈ slots, slot.get draft = none) :
    vs.length ≤ slots.length ∧ Moves all draft (inOrder (slots.map fun slot => slot.key) vs) d ∧
      Supplied slots (inOrder (slots.map fun slot => slot.key) vs) := by
  induction h with
  | done => exact ⟨Nat.le_refl _, ⟨List.forall_mem_nil _, fun slot _ => rfl⟩, List.forall_mem_nil _⟩
  | default hdefault _ ih =>
    obtain ⟨hslot, hall⟩ := List.forall_mem_cons.mp hall
    obtain ⟨hkey, hnodup⟩ := List.nodup_cons.mp hnodup
    obtain ⟨hget, hnew⟩ := List.forall_mem_cons.mp hnew
    obtain ⟨-, hmoves, hsupplied⟩ := ih hall hnodup hnew
    rw [inOrder_nil] at hmoves hsupplied ⊢
    refine ⟨Nat.zero_le _, hmoves, ?_⟩
    exact supplied_nil_iff.mpr (List.forall_mem_cons.mpr ⟨hdefault, supplied_nil_iff.mp hsupplied⟩)
  | @value slot slots draft d v vs b hb _ ih =>
    obtain ⟨hslot, hall⟩ := List.forall_mem_cons.mp hall
    obtain ⟨hkey, hnodup⟩ := List.nodup_cons.mp hnodup
    obtain ⟨hget, hnew⟩ := List.forall_mem_cons.mp hnew
    obtain ⟨hlength, hmoves, hsupplied⟩ :=
      ih hall hnodup (hapart.get_put_eq_none hall hslot hkey hnew b)
    refine ⟨Nat.succ_le_succ hlength, hmoves.cons_known hapart hslot hget hb, ?_⟩
    exact (supplied_cons_iff hkey).mpr hsupplied

/-- Values that fit as members in order fill the fields. -/
lemma exists_fills {all : List (Slot σ α)} (hapart : Apart all)
    (hall : ∀ slot ∈ slots, slot ∈ all) (hnodup : (slots.map fun slot => slot.key).Nodup)
    (hnew : ∀ slot ∈ slots, slot.get draft = none) (hlength : vs.length ≤ slots.length)
    (hwelcomes : Welcomes all draft (inOrder (slots.map fun slot => slot.key) vs))
    (hsupplied : Supplied slots (inOrder (slots.map fun slot => slot.key) vs)) :
    ∃ d, Fills slots vs draft d := by
  induction slots generalizing draft vs with
  | nil =>
    obtain rfl := List.length_eq_zero_iff.mp (Nat.le_zero.mp hlength)
    exact ⟨draft, .done⟩
  | cons slot slots ih =>
    obtain ⟨hslot, hall⟩ := List.forall_mem_cons.mp hall
    obtain ⟨hkey, hnodup⟩ := List.nodup_cons.mp hnodup
    obtain ⟨hget, hnew⟩ := List.forall_mem_cons.mp hnew
    rcases vs with _ | ⟨v, vs⟩
    · rw [inOrder_nil] at hwelcomes hsupplied
      obtain ⟨hdefault, hothers⟩ := List.forall_mem_cons.mp (supplied_nil_iff.mp hsupplied)
      obtain ⟨d, hd⟩ := ih hall hnodup hnew (Nat.zero_le _) (by rwa [inOrder_nil])
        (by rwa [inOrder_nil, supplied_nil_iff])
      exact ⟨d, .default hdefault hd⟩
    · have hsupplied := (supplied_cons_iff hkey).mp hsupplied
      obtain ⟨after, hfits⟩ := hwelcomes.fits slot hslot
      have hvalues :
          valuesOf slot.key (inOrder ((slot :: slots).map fun slot => slot.key) (v :: vs)) =
            v :: valuesOf slot.key (inOrder (slots.map fun slot => slot.key) vs) :=
        valuesOf_cons_of_eq
      rw [hvalues, hget, fits_cons_iff] at hfits
      obtain ⟨-, b, hb, -⟩ := hfits
      obtain ⟨d, hd⟩ := ih hall hnodup (hapart.get_put_eq_none hall hslot hkey hnew b)
        (Nat.le_of_succ_le_succ hlength) (hwelcomes.of_cons_known hapart hslot hget) hsupplied
      exact ⟨d, .value hb hd⟩

/-- A part is empty if there was no value for it. -/
lemma Fits.eq_none_iff {values : List Value} {after : Option slot.Content}
    (h : slot.Fits values none after) : after = none ↔ values = [] := by
  rcases values with _ | ⟨v, values⟩
  · simpa [Fits] using h
  · obtain ⟨-, b, -, rfl⟩ := fits_cons_iff.mp h
    simp

end Slot

/-! ## Records -/

/-- How the drafts of a schema keep the fields of its records. -/
structure Layout {σ α : Type} (schema : Schema σ α) where
  /-- The fields. -/
  slots : List (Slot σ α)
  /-- They are those of the schema. -/
  fields_eq : schema.fields = slots.map Slot.field
  /-- They are kept apart. -/
  apart : Slot.Apart slots
  /-- At first there is nothing in any part. -/
  get_blank : ∀ slot ∈ slots, slot.get schema.blank = none
  /-- A record has what is in the parts of its draft. -/
  part_of_given : ∀ slot ∈ slots, ∀ draft b,
    slot.get draft = some b → slot.part (schema.finish draft) = b
  /-- A record has the default of a field whose part is empty. -/
  part_of_default : ∀ slot ∈ slots, ∀ draft b,
    slot.get draft = none → slot.default? = some b → slot.part (schema.finish draft) = b
  /-- A record is what its fields are. -/
  ext : ∀ a b, (∀ slot ∈ slots, slot.part a = slot.part b) → a = b

namespace Layout

variable {σ α : Type} {schema : Schema σ α} {layout : Layout schema} {draft : σ} {a : α}
  {ms : List (Option String × Value)}

/-- The rules of the fields. -/
def rules (layout : Layout schema) : List (FieldRule α) := layout.slots.map Slot.toFieldRule

/-- The draft is complete if every field without default had a value. -/
lemma complete_iff (hmoves : Slot.Moves layout.slots schema.blank ms draft) :
    schema.Complete draft ↔ Slot.Supplied layout.slots ms := by
  rw [Schema.Complete, layout.fields_eq, List.forall_mem_map]
  refine forall₂_congr fun slot hslot => ?_
  have hfits := hmoves.fits slot hslot
  rw [layout.get_blank slot hslot] at hfits
  rw [← hfits.eq_none_iff, slot.required_field, slot.given_field]
  cases slot.default? <;> cases slot.get draft <;> simp

/-- Fields that admit the values of their keys have a default where there are none. -/
lemma supplied_of_admits
    (hadmits : ∀ slot ∈ layout.slots, slot.Admits (valuesOf slot.key ms)) :
    Slot.Supplied layout.slots ms := by
  intro slot hslot hvalues
  have hadmit := hadmits slot hslot
  rwa [hvalues] at hadmit

/-- The record of a draft has what the members stand for. -/
lemma holds_finish (hmoves : Slot.Moves layout.slots schema.blank ms draft)
    (hsupplied : Slot.Supplied layout.slots ms) :
    ∀ slot ∈ layout.slots, slot.Holds (schema.finish draft) (valuesOf slot.key ms) := by
  intro slot hslot
  have hfits := hmoves.fits slot hslot
  have hdefault := hsupplied slot hslot
  rw [layout.get_blank slot hslot] at hfits
  rcases hvalues : valuesOf slot.key ms with _ | ⟨v, vs⟩
  · obtain ⟨b, hb⟩ := Option.ne_none_iff_exists'.mp (hdefault hvalues)
    rw [hvalues] at hfits
    rw [FieldRule.Holds, layout.part_of_default slot hslot draft b (hfits.eq_none_iff.mpr rfl) hb,
      hb]
  · rw [hvalues, Slot.fits_cons_iff] at hfits
    obtain ⟨rfl, b, hb, hget⟩ := hfits
    rw [FieldRule.Holds, layout.part_of_given slot hslot draft b hget]
    exact hb

/-- No other record has what the members stand for. -/
lemma finish_eq_of_holds (hmoves : Slot.Moves layout.slots schema.blank ms draft)
    (hspelled : ∀ m ∈ ms, ∃ t, Spells m.2 t)
    (hholds : ∀ slot ∈ layout.slots, slot.Holds a (valuesOf slot.key ms)) :
    schema.finish draft = a := by
  refine layout.ext _ _ fun slot hslot => ?_
  have hfits := hmoves.fits slot hslot
  have hold := hholds slot hslot
  rw [layout.get_blank slot hslot] at hfits
  rcases hvalues : valuesOf slot.key ms with _ | ⟨v, vs⟩
  · rw [hvalues] at hfits hold
    exact layout.part_of_default slot hslot draft _ (hfits.eq_none_iff.mpr rfl) hold
  · rw [hvalues, Slot.fits_cons_iff] at hfits
    obtain ⟨rfl, b, hb, hget⟩ := hfits
    rw [hvalues, FieldRule.Holds] at hold
    rw [layout.part_of_given slot hslot draft b hget]
    -- the value stands for one thing only
    have hmem : v ∈ valuesOf slot.key ms := by rw [hvalues]; exact List.mem_singleton_self v
    obtain ⟨m, hm, rfl⟩ := mem_of_mem_valuesOf hmem
    obtain ⟨t, ht⟩ := hspelled m hm
    exact slot.follows.unique ht hb hold

/-- The record of a draft is the one that has what the members stand for. -/
lemma finish_eq_iff (hmoves : Slot.Moves layout.slots schema.blank ms draft)
    (hspelled : ∀ m ∈ ms, ∃ t, Spells m.2 t) :
    Slot.Supplied layout.slots ms ∧ schema.finish draft = a ↔
      ∀ slot ∈ layout.slots, slot.Holds a (valuesOf slot.key ms) := by
  constructor
  · rintro ⟨hsupplied, rfl⟩
    exact holds_finish hmoves hsupplied
  · intro hholds
    have hsupplied := supplied_of_admits fun slot hslot => (hholds slot hslot).admits
    exact ⟨hsupplied, finish_eq_of_holds hmoves hspelled hholds⟩

/-- Members that every field admits fit into the blank draft. -/
lemma welcomes_of_admits (hkeys : ∀ m ∈ ms, m.1 ≠ none)
    (hadmits : ∀ slot ∈ layout.slots, slot.Admits (valuesOf slot.key ms)) :
    Slot.Welcomes layout.slots schema.blank ms := by
  refine ⟨hkeys, fun slot hslot => ?_⟩
  have hadmit := hadmits slot hslot
  rw [layout.get_blank slot hslot]
  rcases hvalues : valuesOf slot.key ms with _ | ⟨v, _ | ⟨w, vs⟩⟩
  · exact ⟨none, rfl⟩
  · rw [hvalues] at hadmit
    obtain ⟨b, hb⟩ := hadmit
    exact ⟨some b, hb⟩
  · rw [hvalues] at hadmit
    exact hadmit.elim

lemma forall_mem_rules {p : FieldRule α → Prop} :
    (∀ rule ∈ layout.rules, p rule) ↔ ∀ slot ∈ layout.slots, p slot.toFieldRule :=
  List.forall_mem_map

lemma keys_rules : layout.rules.map FieldRule.key = layout.slots.map fun slot => slot.key := by
  rw [rules, List.map_map]
  rfl

lemma exists_spells_of_members {parts : List (List Char)}
    (hparts : List.Forall₂ SpellsMember ms parts) : ∀ m ∈ ms, ∃ t, Spells m.2 t := by
  intro m hm
  obtain ⟨p, -, key, value, -, hvalue, -⟩ := exists_of_forall₂ hparts hm
  exact ⟨value, hvalue⟩

/-- An object stands for a record if every field admits the values of its key. -/
lemma exists_denotes {t : List Char} (ht : Spells (.object ms) t) (hkeys : ∀ m ∈ ms, m.1 ≠ none)
    (hadmits : ∀ rule ∈ layout.rules, rule.Admits (valuesOf rule.key ms)) :
    ∃ a, Denotes layout.rules (.object ms) a := by
  obtain ⟨parts, hparts, -⟩ := ht.exists_members
  obtain ⟨answer, -, hmoves, hnone⟩ :=
    Slot.exists_answersParts layout.apart hparts schema.blank
  have hadmits := forall_mem_rules.mp hadmits
  rcases answer with _ | draft
  · exact absurd (welcomes_of_admits hkeys hadmits) (hnone rfl)
  · refine ⟨schema.finish draft, hkeys, forall_mem_rules.mpr ?_⟩
    exact holds_finish (hmoves draft rfl) (supplied_of_admits hadmits)

/-- An object is read as the record that it stands for. -/
lemma answers_object {t : List Char} (ht : Spells (.object ms) t) : ∃ answer,
    schema.reader.Answers t answer ∧
      ∀ a, answer = some a ↔ Denotes layout.rules (.object ms) a := by
  obtain ⟨parts, hparts, htext⟩ := ht.exists_members
  obtain ⟨answer, hanswers, hmoves, hnone⟩ :=
    Slot.exists_answersParts layout.apart hparts schema.blank
  rw [← layout.fields_eq] at hanswers
  have hspelled := exists_spells_of_members hparts
  refine ⟨_, schema.answers_of_pairsText htext hanswers, fun a => ?_⟩
  rw [Denotes, forall_mem_rules]
  rcases answer with _ | draft
  · simp only [Option.bind_none, reduceCtorEq, false_iff]
    rintro ⟨hkeys, hholds⟩
    have hadmits : ∀ slot ∈ layout.slots, slot.Admits (valuesOf slot.key ms) :=
      fun slot hslot => (hholds slot hslot).admits
    exact hnone rfl (welcomes_of_admits hkeys hadmits)
  · have hdraft := hmoves draft rfl
    rw [Option.bind_some, Schema.record?_eq_some_iff, complete_iff hdraft,
      finish_eq_iff hdraft hspelled]
    exact ⟨fun hholds => ⟨hdraft.keys, hholds⟩, And.right⟩

/-- A record is read from an array as its draft is. -/
lemma readList_eq (schema : Schema σ α) (s : List Char) :
    schema.readList s =
      (Slot.readArray schema.expectedLength 0 schema.blank schema.fields s).map
        fun (d, r) => (schema.finish d, r) := by
  rw [Schema.readList, Slot.readArray]
  rcases readPositions schema.expectedLength 0 schema.blank schema.fields s with e | ⟨d, r⟩
  · rfl
  · cases h : endList r <;> simp [h, Except.map]

/-- An array is read as the record of the draft that its elements fill, if there is one. -/
lemma answers_array {vs : List Value} {ts : List (List Char)} {t : List Char}
    (hts : List.Forall₂ Spells vs ts) (hopens : ∀ t ∈ ts, Opens t) (ht : ListText ts t) :
    ∃ answer, schema.reader.Answers t (answer.map schema.finish) ∧
      ∀ d, answer = some d ↔ Slot.Fills layout.slots vs schema.blank d := by
  obtain ⟨inside, rfl, hleft⟩ := ht.exists_left
  have hread : ∀ rest, Slot.ArrayRead schema.expectedLength 0 layout.slots vs schema.blank
      (inside ++ rest) rest := fun rest => Slot.arrayRead_of_elementsLeft hts hopens (hleft rest)
  obtain ⟨answer, -, hfills⟩ := hread []
  refine ⟨answer, fun gap rest hgap hrest => ?_, hfills⟩
  -- what follows the array does not change the draft
  obtain ⟨other, hother, hfills'⟩ := hread rest
  obtain rfl : other = answer := Option.ext fun d => (hfills' d).trans (hfills d).symm
  rw [List.cons_append]
  simp only [Schema.reader, skipSpace_gap_cons hgap (c := '[') rfl]
  rw [readList_eq, layout.fields_eq, toOption_map, hother, Option.map_map, Option.map_map]
  rfl

/-- An array is read as the record that it stands for. -/
lemma answers_list {vs : List Value} {t : List Char} (ht : Spells (.list vs) t) : ∃ answer,
    schema.reader.Answers t answer ∧ ∀ a, answer = some a ↔ Denotes layout.rules (.list vs) a := by
  obtain ⟨ts, hts, hopens, htext⟩ := ht.exists_elements
  obtain ⟨answer, hanswers, hfills⟩ := layout.answers_array hts hopens htext
  have hspelled : ∀ m ∈ inOrder (layout.slots.map fun slot => slot.key) vs,
      ∃ t, Spells m.2 t := by
    intro m hm
    obtain ⟨t, -, ht⟩ := exists_of_forall₂ hts (List.of_mem_zip hm).2
    exact ⟨t, ht⟩
  have hlength : layout.rules.length = layout.slots.length := List.length_map _
  refine ⟨_, hanswers, fun a => ?_⟩
  rw [Denotes, forall_mem_rules, keys_rules, hlength, Option.map_eq_some_iff]
  constructor
  · rintro ⟨draft, hdraft, hfinish⟩
    obtain ⟨hlength, hmoves, hsupplied⟩ := ((hfills draft).mp hdraft).moves layout.apart
      (fun slot hslot => hslot) layout.apart.nodup layout.get_blank
    exact ⟨hlength, (finish_eq_iff hmoves hspelled).mp ⟨hsupplied, hfinish⟩⟩
  · rintro ⟨hlength, hholds⟩
    have hadmits : ∀ slot ∈ layout.slots, slot.Admits (valuesOf slot.key _) :=
      fun slot hslot => (hholds slot hslot).admits
    obtain ⟨draft, hdraft⟩ := Slot.exists_fills layout.apart (fun slot hslot => hslot)
      layout.apart.nodup layout.get_blank hlength
      (welcomes_of_admits ne_none_of_mem_inOrder hadmits) (supplied_of_admits hadmits)
    obtain ⟨-, hmoves, -⟩ := hdraft.moves layout.apart (fun slot hslot => hslot)
      layout.apart.nodup layout.get_blank
    exact ⟨draft, (hfills draft).mpr hdraft, ((finish_eq_iff hmoves hspelled).mpr hholds).2⟩

/-- **The reader of the schema follows the rules of its fields.** -/
theorem follows (layout : Layout schema) : schema.reader.Follows (Denotes layout.rules) := by
  refine follows_of_kinds [.list, .object] ?_ ?_ ?_
  · intro gap c s hgap hspace hc
    have hopening : c ≠ '[' ∧ c ≠ '\x7b' := by
      refine ⟨?_, ?_⟩ <;> rintro rfl <;> exact hc (by decide)
    simp only [Schema.reader, skipSpace_gap_cons hgap hspace]
    split
    · simp_all
    · simp_all
    · simp_all
    · exact exists_mismatch_eq _ _
  · intro v a hv
    cases v <;> simp_all [Denotes, Value.kind]
  · intro v t ht hkind
    cases v with
    | list vs => exact answers_list ht
    | object ms => exact answers_object ht
    | _ => simp [Value.kind] at hkind

end Layout

end DeviceFleet.Json
