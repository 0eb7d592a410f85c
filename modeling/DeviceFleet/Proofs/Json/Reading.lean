/-
# Readers and the texts of values

A reader reads a text as a value (`Reader.Reads`), or answers it with a value or none
(`Reader.Answers`), with whatever space before it, and whatever behind it that does not go on with a
number (`EndsNumber`): a string ends by itself, a number does not.  A comma, a closing bracket and
space do not go on with a number.  What a reader answers decides what is decoded from the text with
space around it.
-/
import DeviceFleet.Json.Reader
import Mathlib.Tactic.Common

namespace DeviceFleet.Json

variable {s r t gap rest : List Char}

/-! ## Space, and the ends of numbers -/

/-- Nothing but space. -/
def Gap (s : List Char) : Prop := ∀ c ∈ s, isSpace c = true

lemma gap_nil : Gap [] := by simp [Gap]

lemma skipSpace_of_gap (h : Gap gap) (s : List Char) : skipSpace (gap ++ s) = skipSpace s :=
  List.dropWhile_append_of_pos h

lemma skipSpace_cons {c : Char} (h : isSpace c = false) (s : List Char) :
    skipSpace (c :: s) = c :: s :=
  List.dropWhile_cons_of_neg (by simp [h])

/-- Space is skipped up to a character that is none. -/
lemma skipSpace_gap_cons {c : Char} (hgap : Gap gap) (hc : isSpace c = false) (s : List Char) :
    skipSpace (gap ++ c :: s) = c :: s := by
  rw [skipSpace_of_gap hgap, skipSpace_cons hc]

lemma skipSpace_gap (h : Gap gap) : skipSpace gap = [] := by
  have := skipSpace_of_gap h []
  rwa [List.append_nil] at this

/-- The characters with which a number can go on. -/
def continuesNumber (c : Char) : Bool := c.isDigit || c == '.' || c == 'e' || c == 'E'

/-- A number that stands before `s` does not go on there. -/
def EndsNumber (s : List Char) : Prop := ∀ c ∈ s.head?, continuesNumber c = false

lemma endsNumber_cons {c : Char} (h : continuesNumber c = false) (s : List Char) :
    EndsNumber (c :: s) := by
  simp [EndsNumber, h]

lemma continuesNumber_of_isSpace {c : Char} (h : isSpace c = true) :
    continuesNumber c = false := by
  simp only [isSpace, Bool.or_eq_true, beq_iff_eq] at h
  rcases h with ((rfl | rfl) | rfl) | rfl <;> decide

lemma endsNumber_append (hgap : Gap gap) (hs : EndsNumber s) : EndsNumber (gap ++ s) := by
  cases gap with
  | nil => exact hs
  | cons c gap => exact endsNumber_cons (continuesNumber_of_isSpace (hgap c (by simp))) _

lemma endsNumber_gap (hgap : Gap gap) : EndsNumber gap := by
  have := endsNumber_append hgap (s := []) (by simp [EndsNumber])
  rwa [List.append_nil] at this

/-! ## What is read back -/

/-- The reader reads `t` as `a`, with whatever space before it, and leaves what follows, if a number
does not go on there. -/
def Reader.Reads {α : Type} (reader : Reader α) (t : List Char) (a : α) : Prop :=
  ∀ gap rest, Gap gap → EndsNumber rest → reader.read (gap ++ (t ++ rest)) = .ok (a, rest)

lemma Reader.Reads.map {α β : Type} {reader : Reader α} {a : α} (h : reader.Reads t a)
    (f : α → β) : (reader.map f).Reads t (f a) := by
  intro gap rest hgap hrest
  simp only [Reader.map, h gap rest hgap hrest]

/-- What is read back is decoded, also with space around it. -/
lemma Reader.Reads.decode {α : Type} {reader : Reader α} {a : α} (h : reader.Reads t a)
    {before after : List Char} (hbefore : Gap before) (hafter : Gap after) :
    reader.decode (before ++ t ++ after) = .ok a := by
  rw [Reader.decode, List.append_assoc, h before after hbefore (endsNumber_gap hafter)]
  simp only [skipSpace_gap hafter]

lemma Reader.Reads.decode_self {α : Type} {reader : Reader α} {a : α} (h : reader.Reads t a) :
    reader.decode t = .ok a := by
  have hdecode := h.decode gap_nil gap_nil
  rwa [List.nil_append, List.append_nil] at hdecode

/-- A text is read as one value at most. -/
lemma Reader.Reads.unique {α : Type} {reader : Reader α} {a b : α} (ha : reader.Reads t a)
    (hb : reader.Reads t b) : a = b :=
  Except.ok.inj (ha.decode_self.symm.trans hb.decode_self)

/-! ## Values or none -/

lemma toOption_eq_some_iff {ε α : Type} {x : Except ε α} {a : α} :
    x.toOption = some a ↔ x = .ok a := by
  cases x <;> simp [Except.toOption]

lemma toOption_eq_none_iff {ε α : Type} {x : Except ε α} :
    x.toOption = none ↔ ∃ e, x = .error e := by
  cases x <;> simp [Except.toOption]

lemma toOption_map {ε α β : Type} (f : α → β) (x : Except ε α) :
    (x.map f).toOption = x.toOption.map f := by
  cases x <;> rfl

/-- The reader reads `t` as the value, if there is one, and refuses it if there is none, with
whatever space before it, if a number does not go on behind it. -/
def Reader.Answers {α : Type} (reader : Reader α) (t : List Char) (answer : Option α) : Prop :=
  ∀ gap rest, Gap gap → EndsNumber rest →
    (reader.read (gap ++ (t ++ rest))).toOption = answer.map fun a => (a, rest)

section Answers

variable {α : Type} {reader : Reader α} {answer : Option α}

lemma answers_some_iff {a : α} : reader.Answers t (some a) ↔ reader.Reads t a := by
  simp only [Reader.Answers, Option.map_some, toOption_eq_some_iff]
  rfl

lemma Reader.Answers.map {β : Type} (h : reader.Answers t answer) (f : α → β) :
    (reader.map f).Answers t (answer.map f) := by
  intro gap rest hgap hrest
  have hread : ∀ s, (reader.map f).read s = (reader.read s).map fun (a, r) => (f a, r) := by
    intro s
    simp only [Reader.map]
    cases reader.read s <;> rfl
  rw [hread, toOption_map, h gap rest hgap hrest, Option.map_map, Option.map_map]
  rfl

/-- What a reader answers decides what is decoded, also with space around it. -/
lemma Reader.Answers.decode (h : reader.Answers t answer) {before after : List Char}
    (hbefore : Gap before) (hafter : Gap after) :
    (reader.decode (before ++ t ++ after)).toOption = answer := by
  have hread := h before after hbefore (endsNumber_gap hafter)
  rw [Reader.decode, List.append_assoc]
  cases answer with
  | some a => simp only [toOption_eq_some_iff.mp hread, skipSpace_gap hafter, Except.toOption]
  | none =>
    obtain ⟨e, he⟩ := toOption_eq_none_iff.mp hread
    simp only [he, Except.toOption]

end Answers

end DeviceFleet.Json
