/-
# Values and their spellings

A value is what the grammar of JSON says apart from spelling: which characters of a string are
escaped, and how, and where there is space, is left open.  `Spells` says which texts spell a value.
A string whose escapes leave half of a surrogate pair is a value, but it is no text.  Every spelling
is passed over (`Spells.isValue`), however deep the value is.

A reader follows a relation between values and what they stand for, if it reads each spelling of a
value as what the value stands for, and refuses the value if it stands for nothing
(`Reader.Follows`).
-/
import DeviceFleet.Proofs.Json.Parts

namespace DeviceFleet.Json

variable {t : List Char}

/-! ## Values -/

/-- A value. -/
inductive Value where
  /-- The word `null`. -/
  | null
  /-- One of the words `true` and `false`. -/
  | boolean (b : Bool)
  /-- A number. -/
  | number (n : Numeral)
  /-- A string, which may be no text. -/
  | text (s : Option String)
  /-- An array. -/
  | list (elements : List Value)
  /-- An object: keys, which may be no text, with their values. -/
  | object (members : List (Option String × Value))

/-- A member with its parts as they are spelled. -/
structure Entry where
  /-- The key. -/
  key : Option String
  /-- The value. -/
  value : Value
  /-- The spelled key. -/
  keyText : List Char
  /-- The spelled value. -/
  valueText : List Char
  /-- The spelled member. -/
  text : List Char

/-- The texts that spell a value. -/
inductive Spells : Value → List Char → Prop
  | null : Spells .null ['n', 'u', 'l', 'l']
  | yes : Spells (.boolean true) ['t', 'r', 'u', 'e']
  | no : Spells (.boolean false) ['f', 'a', 'l', 's', 'e']
  | number (n : Numeral) : Spells (.number n) n.text
  | text {s : Option String} {t : List Char} (ht : StringText s t) : Spells (.text s) t
  | list {elements : List (Value × List Char)} {t : List Char}
      (helements : ∀ e ∈ elements, Spells e.1 e.2) (ht : ListText (elements.map Prod.snd) t) :
      Spells (.list (elements.map Prod.fst)) t
  | object {entries : List Entry} {t : List Char}
      (hkeys : ∀ e ∈ entries, StringText e.key e.keyText)
      (hvalues : ∀ e ∈ entries, Spells e.value e.valueText)
      (htexts : ∀ e ∈ entries, PairText e.keyText e.valueText e.text)
      (ht : PairsText (entries.map Entry.text) t) :
      Spells (.object (entries.map fun e => (e.key, e.value))) t

lemma isValue_word {c : Char} {word : List Char} (hspace : isSpace c = false) (hclose : c ≠ ']')
    (hscalar : bracket? c = none) (hskip : ∀ s, skipScalar (c :: s) = readWord word s) :
    IsValue (c :: word) := by
  have hword : ∀ word rest : List Char, readWord word (word ++ rest) = .ok rest := by
    intro word rest
    induction word with
    | nil => rfl
    | cons w word ih => rw [List.cons_append, readWord, if_pos rfl, ih]
  refine isValue_of_skipScalar hspace hclose hscalar fun rest _ => ?_
  rw [List.cons_append, hskip, hword]

/-- **Passing over a value takes any spelling of it**, however deep it is. -/
theorem Spells.isValue {v : Value} (h : Spells v t) : IsValue t := by
  induction h with
  | null => exact isValue_word rfl (by decide) rfl fun _ => rfl
  | yes => exact isValue_word rfl (by decide) rfl fun _ => rfl
  | no => exact isValue_word rfl (by decide) rfl fun _ => rfl
  | number n => exact n.isValue
  | text ht => exact ht.isValue
  | list _ ht ih =>
    refine isValue_of_listText ht fun t hmem => ?_
    obtain ⟨e, he, rfl⟩ := List.mem_map.mp hmem
    exact ih e he
  | object hkeys _ htexts ht ih =>
    refine isValue_of_pairsText ht fun p hp => ?_
    obtain ⟨e, he, rfl⟩ := List.mem_map.mp hp
    exact .mk (hkeys e he) (ih e he) (htexts e he)

/-- A spelled member. -/
def SpellsMember (m : Option String × Value) (p : List Char) : Prop :=
  ∃ key value, StringText m.1 key ∧ Spells m.2 value ∧ PairText key value p

lemma Spells.exists_elements {vs : List Value} (h : Spells (.list vs) t) :
    ∃ ts, List.Forall₂ Spells vs ts ∧ (∀ t ∈ ts, Opens t) ∧ ListText ts t := by
  cases h with
  | list helements ht =>
    refine ⟨_, ?_, ?_, ht⟩
    · rw [List.forall₂_map_left_iff, List.forall₂_map_right_iff]
      exact List.forall₂_same.mpr helements
    · intro t hmem
      obtain ⟨e, he, rfl⟩ := List.mem_map.mp hmem
      exact (helements e he).isValue.opens

lemma Spells.exists_members {ms : List (Option String × Value)} (h : Spells (.object ms) t) :
    ∃ parts, List.Forall₂ SpellsMember ms parts ∧ PairsText parts t := by
  cases h with
  | object hkeys hvalues htexts ht =>
    refine ⟨_, ?_, ht⟩
    rw [List.forall₂_map_left_iff, List.forall₂_map_right_iff]
    exact List.forall₂_same.mpr fun e he => ⟨_, _, hkeys e he, hvalues e he, htexts e he⟩

/-! ## Written values -/

lemma spells_writeString (text : String) : Spells (.text (some text)) (writeString text) :=
  .text (stringText_writeString text)

lemma spells_writeNat (n : Nat) : Spells (.number (.ofNat n)) (writeNat n) := by
  rw [← Numeral.text_ofNat]
  exact .number _

/-- A written array spells the array of the values that its elements spell. -/
lemma spells_writeList {α : Type} {value : α → Value} {write : α → List Char} {as : List α}
    (h : ∀ a ∈ as, Spells (value a) (write a)) :
    Spells (.list (as.map value)) (writeList (as.map write)) := by
  have helements : ∀ e ∈ as.map fun a => (value a, write a), Spells e.1 e.2 :=
    List.forall_mem_map.mpr h
  have hspells := Spells.list helements (.elements (arrayText_writeList _))
  simpa only [List.map_map, Function.comp_def] using hspells

/-- A written member with the value that its text spells. -/
def Entry.written (m : Member × Value) : Entry :=
  ⟨some m.1.key, m.2, writeString m.1.key, m.1.value, m.1.write⟩

/-- A written object spells the object of its keys and the values that their texts spell. -/
lemma spells_writeObject {ms : List (Member × Value)} (h : ∀ m ∈ ms, Spells m.2 m.1.value) :
    Spells (.object (ms.map fun m => (some m.1.key, m.2))) (writeObject (ms.map Prod.fst)) := by
  have hkeys : ∀ e ∈ ms.map Entry.written, StringText e.key e.keyText :=
    List.forall_mem_map.mpr fun m _ => stringText_writeString m.1.key
  have hvalues : ∀ e ∈ ms.map Entry.written, Spells e.value e.valueText :=
    List.forall_mem_map.mpr h
  have htexts : ∀ e ∈ ms.map Entry.written, PairText e.keyText e.valueText e.text :=
    List.forall_mem_map.mpr fun m _ => pairText_self _ _
  have hspells := Spells.object hkeys hvalues htexts (.members _)
  rw [List.map_map, List.map_map] at hspells
  rw [writeObject, List.map_map, List.cons_append]
  exact hspells

/-! ## Kinds of values -/

/-- The kinds of values that readers tell apart. -/
inductive Kind where
  /-- A word. -/
  | word
  /-- A number. -/
  | number
  /-- A string. -/
  | text
  /-- An array. -/
  | list
  /-- An object. -/
  | object
deriving DecidableEq

/-- The kind of a value. -/
def Value.kind : Value → Kind
  | .null | .boolean _ => .word
  | .number _ => .number
  | .text _ => .text
  | .list _ => .list
  | .object _ => .object

/-- The kind of the value that a character starts, if it starts one. -/
def kindAt (c : Char) : Kind :=
  if c = '"' then .text
  else if c = '[' then .list
  else if c = '\x7b' then .object
  else if c = '-' || c.isDigit then .number
  else .word

/-- The first character tells the kind of a value. -/
lemma Spells.exists_kindAt {v : Value} (h : Spells v t) :
    ∃ c s, t = c :: s ∧ isSpace c = false ∧ kindAt c = v.kind := by
  cases h with
  | null => exact ⟨_, _, rfl, rfl, rfl⟩
  | yes => exact ⟨_, _, rfl, rfl, rfl⟩
  | no => exact ⟨_, _, rfl, rfl, rfl⟩
  | number n =>
    obtain ⟨c, s, htext, hc⟩ := n.exists_text_eq
    refine ⟨c, s, htext, ?_, ?_⟩
    · rcases hc with rfl | hc
      · rfl
      · exact isSpace_of_isDigit hc
    · rcases hc with rfl | hc
      · rfl
      · simp [kindAt, Value.kind, hc, ne_of_isDigit hc]
  | text ht =>
    obtain ⟨body, rfl, -⟩ := ht.exists_body
    exact ⟨_, _, rfl, rfl, rfl⟩
  | list _ ht =>
    obtain ⟨inside, rfl, -⟩ := ht.exists_left
    exact ⟨_, _, rfl, rfl, rfl⟩
  | object _ _ _ ht =>
    obtain ⟨inside, rfl, -⟩ := ht.exists_left
    exact ⟨_, _, rfl, rfl, rfl⟩

/-! ## What readers follow -/

/-- The reader reads each spelling of a value as what the value stands for, and refuses it if the
value stands for nothing. -/
def Reader.Follows {α : Type} (reader : Reader α) (stands : Value → α → Prop) : Prop :=
  ∀ v t, Spells v t → ∃ answer, reader.Answers t answer ∧ ∀ a, answer = some a ↔ stands v a

section Follows

variable {α : Type} {reader : Reader α} {stands : Value → α → Prop}

/-- A spelled value stands for one thing at most. -/
lemma Reader.Follows.unique {v : Value} {a b : α} (h : reader.Follows stands) (hv : Spells v t)
    (ha : stands v a) (hb : stands v b) : a = b := by
  obtain ⟨answer, -, hstands⟩ := h v t hv
  exact Option.some.inj (((hstands a).mpr ha).symm.trans ((hstands b).mpr hb))

/-- A reader that refuses the values of all but some kinds need be looked at for these only. -/
lemma follows_of_kinds (kinds : List Kind)
    (hother : ∀ gap c s, Gap gap → isSpace c = false → kindAt c ∉ kinds →
      ∃ e, reader.read (gap ++ c :: s) = .error e)
    (hstands : ∀ v a, stands v a → v.kind ∈ kinds)
    (hkinds : ∀ v t, Spells v t → v.kind ∈ kinds →
      ∃ answer, reader.Answers t answer ∧ ∀ a, answer = some a ↔ stands v a) :
    reader.Follows stands := by
  intro v t h
  by_cases hkind : v.kind ∈ kinds
  · exact hkinds v t h hkind
  · obtain ⟨c, s, rfl, hspace, hc⟩ := h.exists_kindAt
    refine ⟨none, ?_, ?_⟩
    · intro gap rest hgap hrest
      exact toOption_eq_none_iff.mpr (hother gap c (s ++ rest) hgap hspace (hc ▸ hkind))
    · intro a
      simp only [reduceCtorEq, false_iff]
      intro ha
      exact hkind (hstands v a ha)

lemma exists_mismatch_eq (expected : String) (s : List Char) :
    ∃ e, mismatch (α := α) expected s = .error e := by
  cases h : mismatch (α := α) expected s with
  | error e => exact ⟨e, rfl⟩
  | ok a => exact absurd h mismatch_ne_ok

/-! ### Strings and ports -/

/-- The value is the string. -/
def Value.IsText (v : Value) (s : String) : Prop := v = .text (some s)

/-- The value is the port, in digits with no zero in front. -/
def Value.IsPort (v : Value) (port : UInt16) : Prop := v = .number (.ofNat port.toNat)

/-- **A string is read if it is a text, and nothing else is.** -/
theorem follows_text : textReader.Follows Value.IsText := by
  refine follows_of_kinds [.text] ?_ ?_ ?_
  · intro gap c s hgap hspace hc
    have hquote : c ≠ '"' := by
      rintro rfl
      exact hc (by decide)
    simp only [textReader, skipSpace_gap_cons hgap hspace]
    split
    · simp_all
    · simp_all
    · exact exists_mismatch_eq _ _
  · rintro v a rfl
    exact List.mem_singleton_self _
  · intro v t h hkind
    cases h with
    | text ht => exact ⟨_, ht.answers, fun a => by simp [Value.IsText]⟩
    | _ => simp [Value.kind] at hkind

/-- **A number is read as a port if it is one**, and nothing else is. -/
theorem follows_port : portReader.Follows Value.IsPort := by
  refine follows_of_kinds [.number] ?_ ?_ ?_
  · intro gap c s hgap hspace hc
    have hnumber : ¬ (c = '-' || c.isDigit) = true := by
      intro hc'
      refine hc ?_
      have hne : c ≠ '"' ∧ c ≠ '[' ∧ c ≠ '\x7b' := by
        refine ⟨?_, ?_, ?_⟩ <;> rintro rfl <;> revert hc' <;> decide
      simp only [kindAt, hne, if_false, hc', if_true, List.mem_singleton]
    simp only [portReader, skipSpace_gap_cons hgap hspace]
    rw [if_neg hnumber]
    exact exists_mismatch_eq _ _
  · rintro v a rfl
    exact List.mem_singleton_self _
  · intro v t h hkind
    cases h with
    | number n =>
      obtain ⟨answer, hanswers, hanswer⟩ := n.answers
      exact ⟨answer, hanswers, fun a => by simp [hanswer, Value.IsPort]⟩
    | _ => simp [Value.kind] at hkind

/-! ### Arrays -/

/-- The value is an array of values that stand for the elements of the list. -/
def Value.IsList (stands : Value → α → Prop) (v : Value) (as : List α) : Prop :=
  ∃ vs, v = .list vs ∧ List.Forall₂ stands vs as

lemma exists_answers (h : reader.Follows stands) {vs : List Value} {ts : List (List Char)}
    (hts : List.Forall₂ Spells vs ts) : ∃ answers, List.Forall₂ reader.Answers ts answers ∧
      ∀ as, answers.mapM id = some as ↔ List.Forall₂ stands vs as := by
  induction hts with
  | nil => exact ⟨[], .nil, fun as => by simp [eq_comm]⟩
  | @cons v t vs ts hv _ ih =>
    obtain ⟨answer, hanswer, hstands⟩ := h v t hv
    obtain ⟨answers, hanswers, hothers⟩ := ih
    refine ⟨answer :: answers, .cons hanswer hanswers, fun as => ?_⟩
    have hall : (answer :: answers).mapM id = some as ↔
        ∃ a others, answer = some a ∧ answers.mapM id = some others ∧ a :: others = as := by
      rw [List.mapM_cons]
      simp [Option.bind_eq_some_iff]
    rw [hall, List.forall₂_cons_left_iff]
    constructor
    · rintro ⟨a, others, ha, hothers', rfl⟩
      exact ⟨a, others, (hstands a).mp ha, (hothers others).mp hothers', rfl⟩
    · rintro ⟨a, others, ha, hothers', rfl⟩
      exact ⟨a, others, (hstands a).mpr ha, (hothers others).mpr hothers', rfl⟩

/-- **An array is read if each of its elements is**, and nothing else is. -/
theorem follows_list (h : reader.Follows stands) :
    (listReader reader).Follows (Value.IsList stands) := by
  refine follows_of_kinds [.list] ?_ ?_ ?_
  · intro gap c s hgap hspace hc
    have hbracket : c ≠ '[' := by
      rintro rfl
      exact hc (by decide)
    simp only [listReader, skipSpace_gap_cons hgap hspace]
    split
    · simp_all
    · simp_all
    · exact exists_mismatch_eq _ _
  · rintro v as ⟨vs, rfl, -⟩
    exact List.mem_singleton_self _
  · intro v t hspells hkind
    cases v with
    | list vs =>
      obtain ⟨ts, hts, hopens, ht⟩ := hspells.exists_elements
      obtain ⟨answers, hanswers, hstands⟩ := exists_answers h hts
      refine ⟨_, answers_of_listText ht hopens hanswers, fun as => ?_⟩
      rw [hstands]
      simp [Value.IsList]
    | _ => simp [Value.kind] at hkind

end Follows

end DeviceFleet.Json
