/-
# Reading arrays and objects part by part

An array is answered with what its elements are answered with, or with none as soon as one element
is (`answers_of_listText`).  The members of an object are put into a draft one after the other:
`AnswersPart` says what a record makes of one member and `AnswersParts` what it makes of all, where
nothing is left once a member is refused.  The draft of the last member decides what the object is
read as (`Schema.answers_of_pairsText`).
-/
import DeviceFleet.Proofs.Json.WrittenValue

namespace DeviceFleet.Json

variable {s r t gap rest : List Char}

/-! ## Arrays -/

section Arrays

variable {α : Type} {reader : Reader α} {a : α} {as read : List α} {first : Bool}

lemma nextElement_close (hgap : Gap gap) (first : Bool) (rest : List Char) :
    nextElement first (gap ++ ']' :: rest) = .ok none := by
  simp only [nextElement, skipSpace_gap_cons hgap (c := ']') rfl]

lemma nextElement_first {c : Char} (hs : skipSpace s = c :: r) (hc : c ≠ ']') :
    nextElement true s = .ok (some (c :: r)) := by
  rw [nextElement, hs]
  split
  · simp_all
  · simp_all
  · next hcons =>
    obtain ⟨rfl, rfl⟩ := List.cons.inj hcons
    rfl

lemma nextElement_comma {c : Char} (hs : skipSpace s = ',' :: r) (hr : skipSpace r = c :: t)
    (hc : c ≠ ']') : nextElement false s = .ok (some (c :: t)) := by
  rw [nextElement, hs]
  split
  · simp_all
  · simp_all
  · next hcons =>
    obtain ⟨rfl, rfl⟩ := List.cons.inj hcons
    rw [if_neg Bool.false_ne_true, if_pos rfl, hr]
    split
    · simp_all
    · simp_all
    · rfl

/-- What is left of an array: the given elements, of which the first may be that of the array, the
end of the array and `rest`. -/
inductive ElementsLeft (rest : List Char) : Bool → List (List Char) → List Char → Prop
  | none {first : Bool} {gap : List Char} (hgap : Gap gap) :
      ElementsLeft rest first [] (gap ++ ']' :: rest)
  | first {ts parts : List (List Char)} (hparts : List.Forall₂ ElementText ts parts) :
      ElementsLeft rest true ts (separated parts ++ ']' :: rest)
  | later {gap : List Char} {ts parts : List (List Char)} (hgap : Gap gap)
      (hparts : List.Forall₂ ElementText ts parts) :
      ElementsLeft rest false ts (gap ++ (parts.flatMap (',' :: ·) ++ ']' :: rest))

lemma ElementsLeft.exists_gap (h : ElementsLeft rest first [] s) :
    ∃ gap, Gap gap ∧ s = gap ++ ']' :: rest := by
  cases h with
  | @none _ gap hgap => exact ⟨gap, hgap, rfl⟩
  | first hparts =>
    cases hparts
    exact ⟨[], gap_nil, rfl⟩
  | @later gap _ _ hgap hparts =>
    cases hparts
    exact ⟨gap, hgap, rfl⟩

/-- Where no element is left, it makes no difference whether there was one. -/
lemma ElementsLeft.of_nil (h : ElementsLeft rest first [] s) : ElementsLeft rest false [] s := by
  obtain ⟨gap, hgap, rfl⟩ := h.exists_gap
  exact .none hgap

/-- The next element comes next, and the others are left behind it. -/
lemma ElementsLeft.exists_next {ts : List (List Char)} (h : ElementsLeft rest first (t :: ts) s)
    (ht : Opens t) : ∃ r, nextElement first s = .ok (some (t ++ r)) ∧ EndsNumber r ∧
      ElementsLeft rest false ts r := by
  obtain ⟨c, inside, rfl, hspace, hclose⟩ := ht
  cases h with
  | first hparts =>
    cases hparts with
    | @cons _ p _ parts hp hparts =>
      obtain ⟨hbefore, hafter⟩ := hp
      have hend := endsNumber_parts (c := ']') (by decide) parts rest
      refine ⟨_, ?_, endsNumber_append hafter hend, .later hafter hparts⟩
      simp only [separated_cons, List.append_assoc, List.cons_append]
      exact nextElement_first (skipSpace_gap_cons hbefore hspace _) hclose
  | later hgap hparts =>
    cases hparts with
    | @cons _ p _ parts hp hparts =>
      obtain ⟨hbefore, hafter⟩ := hp
      have hend := endsNumber_parts (c := ']') (by decide) parts rest
      refine ⟨_, ?_, endsNumber_append hafter hend, .later hafter hparts⟩
      simp only [List.flatMap_cons, List.append_assoc, List.cons_append]
      exact nextElement_comma (skipSpace_gap_cons hgap rfl _)
        (skipSpace_gap_cons hbefore hspace _) hclose

lemma readElements_of_end (h : nextElement first s = .ok none) :
    readElements reader read first s = .ok (read.reverse, s) := by
  rw [readElements]
  split <;> simp_all

lemma readElements_of_element (h : nextElement first s = .ok (some t))
    (hread : reader.read t = .ok (a, r)) :
    readElements reader read first s = readElements reader (a :: read) false r := by
  rw [readElements]
  split
  · simp_all
  · simp_all
  · next hnext =>
    rw [h] at hnext
    obtain rfl := Option.some.inj (Except.ok.inj hnext)
    split <;> simp_all

lemma readElements_of_refused {e : Failure} (h : nextElement first s = .ok (some t))
    (hread : reader.read t = .error e) : readElements reader read first s = .error e := by
  rw [readElements]
  split
  · simp_all
  · simp_all
  · next hnext =>
    rw [h] at hnext
    obtain rfl := Option.some.inj (Except.ok.inj hnext)
    split <;> simp_all

/-- An element is answered, and what follows if it is not refused. -/
lemma readElements_of_answers {answer : Option α} (hanswer : reader.Answers t answer)
    (hr : EndsNumber r) (h : nextElement first s = .ok (some (t ++ r))) :
    (readElements reader read first s).toOption =
      answer.bind fun a => (readElements reader (a :: read) false r).toOption := by
  have hread := hanswer [] r gap_nil hr
  rcases answer with _ | a
  · obtain ⟨e, he⟩ := toOption_eq_none_iff.mp hread
    rw [readElements_of_refused h he]
    rfl
  · rw [readElements_of_element h (toOption_eq_some_iff.mp hread), Option.bind_some]

/-- The elements that are left are answered one after the other. -/
lemma readElements_left {ts : List (List Char)} {answers : List (Option α)}
    (hanswers : List.Forall₂ reader.Answers ts answers) (hopens : ∀ t ∈ ts, Opens t)
    (h : ElementsLeft rest first ts s) (read : List α) :
    ∃ behind, Gap behind ∧ (readElements reader read first s).toOption =
      (answers.mapM id).map fun as => (read.reverse ++ as, behind ++ ']' :: rest) := by
  induction hanswers generalizing first s read with
  | nil =>
    obtain ⟨gap, hgap, rfl⟩ := h.exists_gap
    refine ⟨gap, hgap, ?_⟩
    rw [readElements_of_end (nextElement_close hgap first rest)]
    simp [Except.toOption]
  | @cons t answer ts answers hanswer _ ih =>
    obtain ⟨ht, hopens⟩ := List.forall_mem_cons.mp hopens
    obtain ⟨r, hnext, hr, hleft⟩ := h.exists_next ht
    rw [readElements_of_answers hanswer hr hnext]
    rcases answer with _ | a
    · exact ⟨[], gap_nil, rfl⟩
    · obtain ⟨behind, hbehind, hothers⟩ := ih hopens hleft (a :: read)
      refine ⟨behind, hbehind, ?_⟩
      rw [Option.bind_some, hothers, List.mapM_cons]
      cases answers.mapM id <;> simp

lemma endList_close (hgap : Gap gap) (rest : List Char) :
    endList (gap ++ ']' :: rest) = .ok rest := by
  simp only [endList, skipSpace_gap_cons hgap (c := ']') rfl]

/-- An array does not end before another element. -/
lemma exists_endList_error (h : nextElement first s = .ok (some t)) :
    ∃ e, endList s = .error e := by
  unfold nextElement at h
  unfold endList
  split at h
  · cases h
  · cases h
  · next c r hclose hs =>
    rw [hs]
    split
    · exact ⟨_, rfl⟩
    · next heq => exact absurd (List.cons.inj heq).1 (fun hc => hclose hc)
    · split <;> exact ⟨_, rfl⟩
    · exact ⟨_, rfl⟩

/-- Behind its bracket all elements of an array are left. -/
lemma ListText.exists_left {ts : List (List Char)} (h : ListText ts t) :
    ∃ inside, t = '[' :: inside ∧ ∀ rest, ElementsLeft rest true ts (inside ++ rest) := by
  rcases h with ⟨hgap⟩ | ⟨⟨hparts⟩⟩
  · refine ⟨_, rfl, fun rest => ?_⟩
    rw [List.append_assoc]
    exact .none hgap
  · refine ⟨_, rfl, fun rest => ?_⟩
    rw [List.append_assoc]
    exact .first hparts

/-- **An array is answered with what its elements are answered with**, if none of them is
refused. -/
theorem answers_of_listText {ts : List (List Char)} {answers : List (Option α)}
    (h : ListText ts t) (hopens : ∀ t ∈ ts, Opens t)
    (hanswers : List.Forall₂ reader.Answers ts answers) :
    (listReader reader).Answers t (answers.mapM id) := by
  obtain ⟨inside, rfl, hleft⟩ := h.exists_left
  intro gap rest hgap hrest
  obtain ⟨behind, hbehind, helements⟩ := readElements_left hanswers hopens (hleft rest) []
  rw [List.cons_append]
  simp only [listReader, skipSpace_gap_cons hgap (c := '[') rfl]
  cases hall : answers.mapM id with
  | some as =>
    rw [hall] at helements
    simp only [toOption_eq_some_iff.mp helements, endList_close hbehind]
    rfl
  | none =>
    rw [hall] at helements
    obtain ⟨e, he⟩ := toOption_eq_none_iff.mp helements
    simp only [he]
    rfl

end Arrays

/-! ## Members -/

section Members

variable {σ : Type} {fields : List (Field σ)} {draft d : σ} {answer : Option σ}
  {key value p : List Char} {name : String}

/-- What the fields make of a member: the draft that it leaves, or none if it is refused. -/
inductive AnswersPart (fields : List (Field σ)) (draft : σ) (answer : Option σ) : List Char → Prop
  | mk {before inside : List Char} (hbefore : Gap before)
      (hread : ∀ rest, EndsNumber rest → ∃ behind, Gap behind ∧
        (readMember fields draft (inside ++ rest)).toOption =
          answer.map fun d => (d, behind ++ rest)) :
      AnswersPart fields draft answer (before ++ '"' :: inside)

/-- What the fields make of members, one after the other: the draft that all leave, or none if one
of them is refused. -/
inductive AnswersParts (fields : List (Field σ)) : σ → Option σ → List (List Char) → Prop
  | nil {draft : σ} : AnswersParts fields draft (some draft) []
  | refused {draft : σ} {p : List Char} {parts : List (List Char)}
      (hfirst : AnswersPart fields draft none p) : AnswersParts fields draft none (p :: parts)
  | cons {draft d : σ} {answer : Option σ} {p : List Char} {parts : List (List Char)}
      (hfirst : AnswersPart fields draft (some d) p)
      (hothers : AnswersParts fields d answer parts) : AnswersParts fields draft answer (p :: parts)

/-- What is read behind a key: the value of the field, or a value that is passed over. -/
def readContent (fields : List (Field σ)) (draft : σ) (name : String) (s : List Char) : Reading σ :=
  match fields.find? fun field => field.name == name with
  | some field => field.readInto draft s
  | none => skipMember draft s

/-- The field of a key. -/
lemma find?_key (fields : List (Field σ)) (key : String) :
    fields.find? (fun field => field.name.toList == key.toList) =
      fields.find? (fun field => field.name == key) := by
  congr 1
  funext field
  rw [Bool.eq_iff_iff, beq_iff_eq, beq_iff_eq, String.toList_inj]

lemma readMember_of_key (h : readBody s = .ok (name.toList, r)) :
    readMember fields draft s = readContent fields draft name r := by
  simp only [readMember, h, find?_key]
  rfl

/-- A member whose key is no text is refused. -/
lemma answersPart_of_no_key (hkey : StringText none key) (hp : PairText key value p) :
    AnswersPart fields draft none p := by
  obtain @⟨before, between, spaced, hbefore, hbetween, hspaced⟩ := hp
  obtain ⟨body, rfl, hbody, -⟩ := hkey.exists_body
  rw [List.cons_append]
  refine .mk hbefore fun rest _ => ⟨[], gap_nil, ?_⟩
  obtain ⟨e, he⟩ := toOption_eq_none_iff.mp (hbody (between ++ ':' :: spaced ++ rest))
  rw [List.append_assoc, readMember]
  simp only [he]
  rfl

/-- A member is answered with what is read behind its key. -/
lemma answersPart_of_content (hkey : StringText (some name) key) (hp : PairText key value p)
    (hcontent : ∀ between before rest, Gap between → Gap before → EndsNumber rest →
      (readContent fields draft name (between ++ ':' :: (before ++ (value ++ rest)))).toOption =
        answer.map fun d => (d, rest)) :
    AnswersPart fields draft answer p := by
  obtain ⟨hbefore, hbetween, hinside, hafter⟩ := hp
  obtain ⟨body, rfl, hbody, -⟩ := hkey.exists_body
  rw [List.cons_append]
  refine .mk hbefore fun rest hrest => ⟨_, hafter, ?_⟩
  simp only [List.append_assoc, List.cons_append]
  rw [readMember_of_key (toOption_eq_some_iff.mp (hbody _))]
  exact hcontent _ _ _ hbetween hinside (endsNumber_append hafter hrest)

lemma readColon_gap (hgap : Gap gap) (s : List Char) : readColon (gap ++ ':' :: s) = .ok s := by
  simp only [readColon, skipSpace_gap_cons hgap (c := ':') rfl]

/-- The value of a key that no field has is passed over. -/
lemma answersPart_of_unknown (hkey : StringText (some name) key) (hp : PairText key value p)
    (hfield : fields.find? (fun field => field.name == name) = none) (hvalue : IsValue value) :
    AnswersPart fields draft (some draft) p := by
  refine answersPart_of_content hkey hp fun between before rest hbetween hbefore hrest => ?_
  have hskip := hvalue.skip [] rest hrest
  rw [skipAfter] at hskip
  simp only [readContent, hfield, skipMember, readColon_gap hbetween, skipValue,
    skipNested_gap hbefore, hskip]
  rfl

/-- A field that the draft has is refused. -/
lemma answersPart_of_given {field : Field σ} (hkey : StringText (some name) key)
    (hp : PairText key value p)
    (hfield : fields.find? (fun field => field.name == name) = some field)
    (hgiven : field.given draft = true) : AnswersPart fields draft none p := by
  refine answersPart_of_content hkey hp fun between before rest _ _ _ => ?_
  simp only [readContent, hfield, Field.readInto, hgiven, if_true]
  rfl

/-- The value of a new field is put into the draft, if it is not refused. -/
lemma answersPart_of_new {field : Field σ} {put : Option (σ → σ)}
    (hkey : StringText (some name) key) (hp : PairText key value p)
    (hfield : fields.find? (fun field => field.name == name) = some field)
    (hnew : field.given draft = false) (hanswer : field.reader.Answers value put) :
    AnswersPart fields draft (put.map fun put => put draft) p := by
  refine answersPart_of_content hkey hp fun between before rest hbetween hbefore hrest => ?_
  have hread := hanswer before rest hbefore hrest
  simp only [readContent, hfield, Field.readInto, hnew, Bool.false_eq_true, if_false,
    readColon_gap hbetween]
  cases put with
  | some put => simp only [toOption_eq_some_iff.mp hread]; rfl
  | none =>
    obtain ⟨e, he⟩ := toOption_eq_none_iff.mp hread
    simp only [he]
    rfl

/-! ### All members -/

lemma nextKey_close (hgap : Gap gap) (first : Bool) (rest : List Char) :
    nextKey first (gap ++ '\x7d' :: rest) = .ok none := by
  simp only [nextKey, skipSpace_gap_cons hgap (c := '\x7d') rfl, if_true]

lemma nextKey_first (hgap : Gap gap) (s : List Char) :
    nextKey true (gap ++ '"' :: s) = .ok (some s) := by
  simp only [nextKey, skipSpace_gap_cons hgap (c := '"') rfl, if_true]
  rfl

lemma nextKey_comma {before : List Char} (hgap : Gap gap) (hbefore : Gap before) (s : List Char) :
    nextKey false (gap ++ ',' :: (before ++ '"' :: s)) = .ok (some s) := by
  simp only [nextKey, skipSpace_gap_cons hgap (c := ',') rfl,
    skipSpace_gap_cons hbefore (c := '"') rfl]
  rfl

lemma readMembers_of_refused {first : Bool} {inside : List Char} {e : Failure}
    (h : nextKey first s = .ok (some inside))
    (hmember : readMember fields draft inside = .error e) :
    readMembers fields draft first s = .error e := by
  rw [readMembers]
  split
  · simp_all
  · simp_all
  · next hkey =>
    rw [h] at hkey
    obtain rfl := Option.some.inj (Except.ok.inj hkey)
    split <;> simp_all

/-- What is left of an object: the given members, of which the first may be that of the object, the
end of the object and `rest`. -/
inductive MembersLeft (rest : List Char) : Bool → List (List Char) → List Char → Prop
  | none {first : Bool} {gap : List Char} (hgap : Gap gap) :
      MembersLeft rest first [] (gap ++ '\x7d' :: rest)
  | first {parts : List (List Char)} :
      MembersLeft rest true parts (separated parts ++ '\x7d' :: rest)
  | later {gap : List Char} {parts : List (List Char)} (hgap : Gap gap) :
      MembersLeft rest false parts (gap ++ (parts.flatMap (',' :: ·) ++ '\x7d' :: rest))

/-- The next member comes next, and the others are left behind it. -/
lemma MembersLeft.exists_next {first : Bool} {before inside : List Char} {parts : List (List Char)}
    (h : MembersLeft rest first ((before ++ '"' :: inside) :: parts) s) (hbefore : Gap before) :
    ∃ r, nextKey first s = .ok (some (inside ++ r)) ∧ EndsNumber r ∧
      ∀ behind, Gap behind → MembersLeft rest false parts (behind ++ r) := by
  have hend := endsNumber_parts (c := '\x7d') (by decide) parts rest
  refine ⟨_, ?_, hend, fun behind hbehind => .later hbehind⟩
  cases h with
  | first =>
    simp only [separated_cons, List.append_assoc, List.cons_append]
    exact nextKey_first hbefore _
  | later hgap =>
    simp only [List.flatMap_cons, List.append_assoc, List.cons_append]
    exact nextKey_comma hgap hbefore _

/-- The members that are left are answered one after the other. -/
lemma readMembers_left {parts : List (List Char)} {first : Bool}
    (hparts : AnswersParts fields draft answer parts) (h : MembersLeft rest first parts s) :
    ∃ behind, Gap behind ∧ (readMembers fields draft first s).toOption =
      answer.map fun d => (d, behind ++ '\x7d' :: rest) := by
  induction hparts generalizing first s with
  | nil =>
    cases h with
    | @none _ gap hgap =>
      exact ⟨gap, hgap, congrArg _ (readMembers_of_end (nextKey_close hgap first rest))⟩
    | first =>
      have hend := nextKey_close gap_nil true rest
      exact ⟨[], gap_nil, by rw [separated]; exact congrArg _ (readMembers_of_end hend)⟩
    | @later gap _ hgap =>
      have hend := nextKey_close hgap false rest
      exact ⟨gap, hgap, congrArg _ (readMembers_of_end hend)⟩
  | refused hfirst =>
    obtain ⟨hbefore, hread⟩ := hfirst
    obtain ⟨r, hnext, hr, -⟩ := h.exists_next hbefore
    obtain ⟨_, -, hmember⟩ := hread r hr
    obtain ⟨e, he⟩ := toOption_eq_none_iff.mp hmember
    rw [readMembers_of_refused hnext he]
    exact ⟨[], gap_nil, rfl⟩
  | cons hfirst _ ih =>
    obtain ⟨hbefore, hread⟩ := hfirst
    obtain ⟨r, hnext, hr, hleft⟩ := h.exists_next hbefore
    obtain ⟨after, hafter, hmember⟩ := hread r hr
    rw [readMembers_of_member hnext (toOption_eq_some_iff.mp hmember)]
    exact ih (hleft after hafter)

end Members

/-! ## Records -/

section Records

variable {σ α : Type} {schema : Schema σ α} {draft : σ}

lemma endObject_close (hgap : Gap gap) (rest : List Char) :
    endObject (gap ++ '\x7d' :: rest) = .ok rest := by
  simp only [endObject, skipSpace_gap_cons hgap (c := '\x7d') rfl, if_true]

/-- A draft with every required field. -/
def Schema.Complete (schema : Schema σ α) (draft : σ) : Prop :=
  ∀ field ∈ schema.fields, field.required = true → field.given draft = true

/-- The record of a draft, if every required field is in it. -/
def Schema.record? (schema : Schema σ α) (draft : σ) : Option α :=
  match schema.fields.find? fun field => field.required && !field.given draft with
  | some _ => none
  | none => some (schema.finish draft)

lemma Schema.record?_eq_some_iff {a : α} :
    schema.record? draft = some a ↔ schema.Complete draft ∧ schema.finish draft = a := by
  have hcomplete : schema.fields.find? (fun field => field.required && !field.given draft) = none ↔
      schema.Complete draft := by
    simp [List.find?_eq_none, Schema.Complete]
  rw [Schema.record?, ← hcomplete]
  split <;> simp_all

/-- Behind its brace all members of an object are left. -/
lemma PairsText.exists_left {parts : List (List Char)} (h : PairsText parts t) :
    ∃ inside, t = '\x7b' :: inside ∧ ∀ rest, MembersLeft rest true parts (inside ++ rest) := by
  rcases h with ⟨hgap⟩ | ⟨parts⟩
  · refine ⟨_, rfl, fun rest => ?_⟩
    rw [List.append_assoc]
    exact .none hgap
  · refine ⟨_, rfl, fun rest => ?_⟩
    rw [List.append_assoc]
    exact .first

/-- **An object is read as the record of the draft that its members leave**, and refused if one of
them is, or if a required field is missing. -/
theorem Schema.answers_of_pairsText {parts : List (List Char)} {answer : Option σ}
    (ht : PairsText parts t) (h : AnswersParts schema.fields schema.blank answer parts) :
    schema.reader.Answers t (answer.bind schema.record?) := by
  obtain ⟨inside, rfl, hleft⟩ := ht.exists_left
  intro gap rest hgap hrest
  obtain ⟨behind, hbehind, hmembers⟩ := readMembers_left h (hleft rest)
  rw [List.cons_append]
  simp only [Schema.reader, skipSpace_gap_cons hgap (c := '\x7b') rfl, Schema.readObject]
  cases answer with
  | none =>
    obtain ⟨e, he⟩ := toOption_eq_none_iff.mp hmembers
    simp only [he]
    rfl
  | some draft =>
    simp only [toOption_eq_some_iff.mp hmembers, Option.bind_some, Schema.record?,
      endObject_close hbehind]
    cases schema.fields.find? fun field => field.required && !field.given draft <;> rfl

end Records

end DeviceFleet.Json
