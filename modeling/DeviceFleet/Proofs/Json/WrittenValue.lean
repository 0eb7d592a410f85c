/-
# Arrays and objects as texts, and passing over them

`ArrayText` and `ObjectText` say which texts are arrays of given values and objects of given
members, with whatever space between the parts; what is written is such a text without any space
(`arrayText_writeList`, `objectText_writeObject`).  A text that passing over a value takes off, and
nothing else, is a value (`IsValue`): written strings and numbers are values, and so are arrays and
objects of values (`isValue_of_listText`, `isValue_of_objectText`).
-/
import DeviceFleet.Proofs.Json.RecordLocality
import DeviceFleet.Proofs.Json.WrittenScalar
import Mathlib.Data.List.Forall2

namespace DeviceFleet.Json

variable {s r t gap rest : List Char}

/-! ## Texts of arrays and objects -/

/-- A value with whatever space around it. -/
inductive ElementText (t : List Char) : List Char → Prop
  | mk {before after : List Char} (hbefore : Gap before) (hafter : Gap after) :
      ElementText t (before ++ (t ++ after))

/-- A member with whatever space around its parts. -/
inductive MemberText (m : Member) : List Char → Prop
  | mk {before between value : List Char} (hbefore : Gap before) (hbetween : Gap between)
      (hvalue : ElementText m.value value) :
      MemberText m (before ++ (writeString m.key ++ (between ++ ':' :: value)))

/-- A member of which the key and the value are given as texts, with whatever space around its
parts. -/
inductive PairText (key value : List Char) : List Char → Prop
  | mk {before between spaced : List Char} (hbefore : Gap before) (hbetween : Gap between)
      (hvalue : ElementText value spaced) :
      PairText key value (before ++ (key ++ (between ++ ':' :: spaced)))

/-- An array of values. -/
inductive ArrayText (elements : List (List Char)) : List Char → Prop
  | mk {parts : List (List Char)} (hparts : List.Forall₂ ElementText elements parts) :
      ArrayText elements ('[' :: (separated parts ++ [']']))

/-- An object of members. -/
inductive ObjectText (members : List Member) : List Char → Prop
  | mk {parts : List (List Char)} (hparts : List.Forall₂ MemberText members parts) :
      ObjectText members ('\x7b' :: (separated parts ++ ['\x7d']))

/-- An array of values, with whatever space inside it if there are none. -/
inductive ListText : List (List Char) → List Char → Prop
  | empty {gap : List Char} (hgap : Gap gap) : ListText [] ('[' :: (gap ++ [']']))
  | elements {ts : List (List Char)} {t : List Char} (ht : ArrayText ts t) : ListText ts t

/-- Members between braces, with whatever space between these if there are none. -/
inductive PairsText : List (List Char) → List Char → Prop
  | empty {gap : List Char} (hgap : Gap gap) : PairsText [] ('\x7b' :: (gap ++ ['\x7d']))
  | members (parts : List (List Char)) :
      PairsText parts ('\x7b' :: (separated parts ++ ['\x7d']))

lemma elementText_self (t : List Char) : ElementText t t := by
  have h := ElementText.mk (t := t) gap_nil gap_nil
  rwa [List.nil_append, List.append_nil] at h

lemma MemberText.pairText {m : Member} {p : List Char} (h : MemberText m p) :
    PairText (writeString m.key) m.value p := by
  obtain ⟨hbefore, hbetween, hvalue⟩ := h
  exact .mk hbefore hbetween hvalue

lemma pairText_self (key value : List Char) : PairText key value (key ++ ':' :: value) :=
  .mk gap_nil gap_nil (elementText_self value)

lemma memberText_write (m : Member) : MemberText m m.write :=
  .mk gap_nil gap_nil (elementText_self m.value)

lemma arrayText_writeList (elements : List (List Char)) :
    ArrayText elements (writeList elements) :=
  .mk (List.forall₂_same.mpr fun t _ => elementText_self t)

lemma objectText_writeObject (members : List Member) :
    ObjectText members (writeObject members) := by
  refine .mk ?_
  rw [List.forall₂_map_right_iff]
  exact List.forall₂_same.mpr fun m _ => memberText_write m

/-- The first part has no comma before it, and every other has one. -/
lemma separated_cons (t : List Char) (ts : List (List Char)) :
    separated (t :: ts) = t ++ ts.flatMap (',' :: ·) := by
  induction ts generalizing t with
  | nil => simp [separated]
  | cons u ts ih => rw [separated, ih, List.flatMap_cons, List.cons_append]

/-- A number does not go on at the comma or the bracket after it. -/
lemma endsNumber_parts {c : Char} (hc : continuesNumber c = false) (parts : List (List Char))
    (rest : List Char) : EndsNumber (parts.flatMap (',' :: ·) ++ c :: rest) := by
  cases parts with
  | nil => exact endsNumber_cons hc rest
  | cons p parts =>
    rw [List.flatMap_cons, List.cons_append, List.cons_append]
    exact endsNumber_cons (by decide) _

/-! ## Passing over values -/

/-- The text starts neither with space nor with the end of an array. -/
def Opens (t : List Char) : Prop := ∃ c s, t = c :: s ∧ isSpace c = false ∧ c ≠ ']'

/-- The text is a value: passing over a value takes it off, if what follows does not go on with a
number. -/
structure IsValue (t : List Char) : Prop where
  /-- It starts with neither space nor the end of an array. -/
  opens : Opens t
  /-- Passing over it comes to what follows. -/
  skip : ∀ around rest, EndsNumber rest → skipNested around (t ++ rest) = skipAfter around rest

variable {around : List Bracket}

lemma skipNested_gap (hgap : Gap gap) (s : List Char) :
    skipNested around (gap ++ s) = skipNested around s := by
  have hskip := skipSpace_of_gap hgap s
  cases hs : skipSpace s with
  | nil =>
    rw [hs] at hskip
    unfold skipNested
    split
    · split <;> simp_all
    · simp_all
  | cons c r =>
    rw [hs] at hskip
    rw [skipNested_of_skipSpace hskip, skipNested_of_skipSpace hs]

lemma isValue_of_skipScalar {c : Char} {inside : List Char} (hspace : isSpace c = false)
    (hclose : c ≠ ']') (hscalar : bracket? c = none)
    (hskip : ∀ rest, EndsNumber rest → skipScalar (c :: inside ++ rest) = .ok rest) :
    IsValue (c :: inside) := by
  refine ⟨⟨c, inside, rfl, hspace, hclose⟩, fun around rest hrest => ?_⟩
  have hskip := hskip rest hrest
  rw [List.cons_append] at hskip ⊢
  rw [skipNested_of_skipSpace (skipSpace_cons hspace _), hscalar]
  simp only [hskip]

lemma StringText.isValue {text : Option String} (h : StringText text t) : IsValue t := by
  obtain ⟨body, rfl, -, hskip⟩ := h.exists_body
  exact isValue_of_skipScalar rfl (by decide) rfl fun rest _ => hskip rest

lemma isValue_writeString (text : String) : IsValue (writeString text) :=
  (stringText_writeString text).isValue

lemma Numeral.isValue (n : Numeral) : IsValue n.text := by
  obtain ⟨c, inside, htext, hc⟩ := n.exists_text_eq
  have hskip : ∀ rest, EndsNumber rest → skipScalar (n.text ++ rest) = .ok rest :=
    fun rest hrest => n.skipScalar_text hrest
  have hne : ∀ d : Char, d ≠ '-' → d.isDigit = false → c ≠ d := by
    rintro d hminus hdigit rfl
    rcases hc with hc | hc
    · exact hminus hc
    · exact ne_of_isDigit hc hdigit rfl
  rw [htext] at hskip ⊢
  refine isValue_of_skipScalar ?_ (hne _ (by decide) (by decide)) ?_ hskip
  · rcases hc with rfl | hc
    · rfl
    · exact isSpace_of_isDigit hc
  · rw [bracket?, if_neg (hne _ (by decide) (by decide)), if_neg (hne _ (by decide) (by decide))]

lemma isValue_writeNat (n : Nat) : IsValue (writeNat n) := by
  rw [← Numeral.text_ofNat]
  exact Numeral.isValue _

/-! ### Arrays -/

lemma skipNested_element {p : List Char} (around : List Bracket) (ht : IsValue t)
    (hp : ElementText t p) (hrest : EndsNumber rest) :
    ∃ gap, Gap gap ∧ skipNested around (p ++ rest) = skipAfter around (gap ++ rest) := by
  obtain ⟨hbefore, hafter⟩ := hp
  refine ⟨_, hafter, ?_⟩
  rw [List.append_assoc, List.append_assoc, skipNested_gap hbefore,
    ht.skip around _ (endsNumber_append hafter hrest)]

lemma skipAfter_elements {ts parts : List (List Char)} (hparts : List.Forall₂ ElementText ts parts)
    (hts : ∀ t ∈ ts, IsValue t) (hgap : Gap gap) (rest : List Char) :
    skipAfter (.list :: around) (gap ++ (parts.flatMap (',' :: ·) ++ ']' :: rest)) =
      skipAfter around rest := by
  induction hparts generalizing gap with
  | nil =>
    rw [List.flatMap_nil, List.nil_append,
      skipAfter_of_skipSpace (skipSpace_gap_cons hgap (by decide) rest), if_neg (by decide)]
    rfl
  | @cons t p ts parts hp hparts ih =>
    obtain ⟨ht, hts⟩ := List.forall_mem_cons.mp hts
    obtain ⟨behind, hbehind, hskip⟩ := skipNested_element (.list :: around) ht hp
      (endsNumber_parts (c := ']') (by decide) parts rest)
    rw [List.flatMap_cons, List.cons_append, List.cons_append, List.append_assoc,
      skipAfter_of_skipSpace (skipSpace_gap_cons hgap (by decide) _), if_pos rfl]
    exact hskip.trans (ih hts hbehind)

lemma exists_skipSpace_element {p : List Char} (ht : Opens t) (hp : ElementText t p)
    (rest : List Char) : ∃ c s, skipSpace (p ++ rest) = c :: s ∧ c ≠ ']' := by
  obtain ⟨hbefore, hafter⟩ := hp
  obtain ⟨c, s, rfl, hspace, hclose⟩ := ht
  rw [List.append_assoc, List.append_assoc, List.cons_append]
  exact ⟨c, _, skipSpace_gap_cons hbefore hspace _, hclose⟩

/-- A bracket that is closed after nothing but space is a value. -/
lemma isValue_of_gap {c : Char} (b : Bracket) (hc : bracket? c = some b)
    (hspace : isSpace c = false) (hopen : c ≠ ']') (hclosing : isSpace b.closing = false)
    (hgap : Gap gap) :
    IsValue (c :: (gap ++ [b.closing])) := by
  refine ⟨⟨c, _, rfl, hspace, hopen⟩, fun around rest _ => ?_⟩
  rw [List.cons_append, skipNested_of_skipSpace (skipSpace_cons hspace _), hc]
  simp only [List.append_assoc, List.singleton_append]
  rw [skipFirst_of_skipSpace (skipSpace_gap_cons hgap hclosing rest), if_pos rfl]

/-- An array of values is a value. -/
lemma isValue_of_listText {ts : List (List Char)} (h : ListText ts t)
    (hts : ∀ t ∈ ts, IsValue t) : IsValue t := by
  rcases h with ⟨hgap⟩ | ⟨⟨hparts⟩⟩
  · exact isValue_of_gap .list rfl rfl (by decide) rfl hgap
  cases hparts with
  | nil => exact isValue_of_gap .list rfl rfl (by decide) rfl gap_nil
  | @cons t p ts parts hp hparts =>
    refine ⟨⟨'[', _, rfl, rfl, by decide⟩, fun around rest _ => ?_⟩
    rw [List.cons_append, skipNested_of_skipSpace (skipSpace_cons rfl _)]
    show skipFirst .list around _ = _
    rw [List.append_assoc, List.singleton_append]
    obtain ⟨ht, hts⟩ := List.forall_mem_cons.mp hts
    rw [separated_cons, List.append_assoc]
    obtain ⟨c, s, hs, hc⟩ := exists_skipSpace_element ht.opens hp
      (parts.flatMap (',' :: ·) ++ ']' :: rest)
    obtain ⟨behind, hbehind, hskip⟩ := skipNested_element (.list :: around) ht hp
      (endsNumber_parts (c := ']') (by decide) parts rest)
    rw [skipFirst_of_skipSpace hs, if_neg (show c ≠ Bracket.list.closing from hc)]
    exact hskip.trans (skipAfter_elements hparts hts hbehind rest)

/-! ### Objects -/

/-- A member of an object of values. -/
inductive IsPair : List Char → Prop
  | mk {name : Option String} {key value p : List Char} (hkey : StringText name key)
      (hvalue : IsValue value) (hp : PairText key value p) : IsPair p

lemma isPair_of_memberText {ms : List Member} {parts : List (List Char)}
    (hparts : List.Forall₂ MemberText ms parts) (hms : ∀ m ∈ ms, IsValue m.value) :
    ∀ p ∈ parts, IsPair p := by
  induction hparts with
  | nil => exact List.forall_mem_nil _
  | @cons m p ms parts hp hparts ih =>
    obtain ⟨hm, hms⟩ := List.forall_mem_cons.mp hms
    exact List.forall_mem_cons.mpr ⟨.mk (stringText_writeString m.key) hm hp.pairText, ih hms⟩

lemma skipKey_quote {before between body : List Char} (hbefore : Gap before)
    (hbetween : Gap between) {s : List Char}
    (hskip : skipBody (body ++ (between ++ ':' :: s)) = .ok (between ++ ':' :: s)) :
    skipKey (before ++ '"' :: (body ++ (between ++ ':' :: s))) = .ok s := by
  simp only [skipKey, skipSpace_gap_cons hbefore (c := '"') rfl, hskip,
    skipSpace_gap_cons hbetween (c := ':') rfl]

/-- Passing over a member, after what comes before its key. -/
lemma skipKey_pair {p : List Char} (around : List Bracket) (hp : IsPair p)
    (hrest : EndsNumber rest) :
    ∃ value gap, Gap gap ∧ skipKey (p ++ rest) = .ok value ∧
      skipNested around value = skipAfter around (gap ++ rest) := by
  obtain ⟨hkey, hvalue, hbefore, hbetween, hspaced⟩ := hp
  obtain ⟨body, rfl, -, hskipBody⟩ := hkey.exists_body
  obtain ⟨behind, hbehind, hskip⟩ := skipNested_element around hvalue hspaced hrest
  refine ⟨_, behind, hbehind, ?_, hskip⟩
  simp only [List.append_assoc, List.cons_append]
  exact skipKey_quote hbefore hbetween (hskipBody _)

lemma skipAfter_pairs {parts : List (List Char)} (hparts : ∀ p ∈ parts, IsPair p)
    (hgap : Gap gap) (rest : List Char) :
    skipAfter (.object :: around) (gap ++ (parts.flatMap (',' :: ·) ++ '\x7d' :: rest)) =
      skipAfter around rest := by
  induction parts generalizing gap with
  | nil =>
    rw [List.flatMap_nil, List.nil_append,
      skipAfter_of_skipSpace (skipSpace_gap_cons hgap (by decide) rest), if_neg (by decide)]
    rfl
  | cons p parts ih =>
    obtain ⟨hp, hparts⟩ := List.forall_mem_cons.mp hparts
    obtain ⟨value, behind, hbehind, hkey, hskip⟩ := skipKey_pair (.object :: around) hp
      (endsNumber_parts (c := '\x7d') (by decide) parts rest)
    rw [List.flatMap_cons, List.cons_append, List.cons_append, List.append_assoc,
      skipAfter_of_skipSpace (skipSpace_gap_cons hgap (by decide) _), if_pos rfl]
    simp only [hkey]
    exact hskip.trans (ih hparts hbehind)

/-- A member starts with a quote. -/
lemma exists_skipSpace_pair {p : List Char} (hp : IsPair p) (rest : List Char) :
    ∃ s, skipSpace (p ++ rest) = '"' :: s := by
  obtain ⟨hkey, -, hbefore, -, -⟩ := hp
  obtain ⟨body, rfl, -, -⟩ := hkey.exists_body
  simp only [List.append_assoc, List.cons_append]
  exact ⟨_, skipSpace_gap_cons hbefore rfl _⟩

/-- Members of values between braces are a value. -/
lemma isValue_of_pairsText {parts : List (List Char)} (h : PairsText parts t)
    (hparts : ∀ p ∈ parts, IsPair p) : IsValue t := by
  rcases h with ⟨hgap⟩ | ⟨parts⟩
  · exact isValue_of_gap .object rfl rfl (by decide) rfl hgap
  cases parts with
  | nil => exact isValue_of_gap .object rfl rfl (by decide) rfl gap_nil
  | cons p parts =>
    refine ⟨⟨'\x7b', _, rfl, rfl, by decide⟩, fun around rest _ => ?_⟩
    rw [List.cons_append, skipNested_of_skipSpace (skipSpace_cons rfl _)]
    show skipFirst .object around _ = _
    rw [List.append_assoc, List.singleton_append]
    obtain ⟨hp, hparts⟩ := List.forall_mem_cons.mp hparts
    rw [separated_cons, List.append_assoc]
    obtain ⟨s, hs⟩ := exists_skipSpace_pair hp (parts.flatMap (',' :: ·) ++ '\x7d' :: rest)
    obtain ⟨value, behind, hbehind, hkey, hskip⟩ := skipKey_pair (.object :: around) hp
      (endsNumber_parts (c := '\x7d') (by decide) parts rest)
    rw [skipFirst_of_skipSpace hs, if_neg (by decide)]
    simp only [hkey]
    exact hskip.trans (skipAfter_pairs hparts hbehind rest)

/-- An object of values is a value. -/
lemma isValue_of_objectText {ms : List Member} (h : ObjectText ms t)
    (hms : ∀ m ∈ ms, IsValue m.value) : IsValue t := by
  obtain ⟨hparts⟩ := h
  exact isValue_of_pairsText (.members _) (isPair_of_memberText hparts hms)

lemma isValue_writeObject {ms : List Member} (hms : ∀ m ∈ ms, IsValue m.value) :
    IsValue (writeObject ms) :=
  isValue_of_objectText (objectText_writeObject ms) hms

end DeviceFleet.Json
