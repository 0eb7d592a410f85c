/-
# Reading what was written: arrays and records

The elements of an array are read back one by one.  A record is read from the members of an object:
`Takes` says what one member does to a draft, and `Collects` what all members do, one after the
other.  If the members leave a draft with every required field, the object is read as the record of
this draft, whatever space stands between its parts (`Schema.reads_of_objectText`).
-/
import DeviceFleet.Proofs.Json.Parts

namespace DeviceFleet.Json

variable {t : List Char}

/-! ## Arrays -/

lemma mapM_id_map_some {α : Type} (as : List α) : (as.map some).mapM id = some as := by
  induction as with
  | nil => rfl
  | cons a as ih =>
    rw [List.map_cons, List.mapM_cons, ih]
    rfl

lemma reads_writeList (texts : List String) :
    (listReader textReader).Reads (writeList (texts.map writeString)) texts := by
  have hopens : ∀ t ∈ texts.map writeString, Opens t := by
    intro t ht
    obtain ⟨text, -, rfl⟩ := List.mem_map.mp ht
    exact (isValue_writeString text).opens
  have hanswers : List.Forall₂ textReader.Answers (texts.map writeString) (texts.map some) := by
    rw [List.forall₂_map_left_iff, List.forall₂_map_right_iff]
    exact List.forall₂_same.mpr fun text _ => (stringText_writeString text).answers
  have h := answers_of_listText (.elements (arrayText_writeList _)) hopens hanswers
  rw [mapM_id_map_some] at h
  exact answers_some_iff.mp h

/-! ## Members -/

section Members

variable {σ : Type} {fields : List (Field σ)} {draft d e : σ} {m : Member} {ms : List Member}

/-- What a member does to a draft: the value of a new field is put into it, and the value of a key
that no field has is passed over. -/
inductive Takes (fields : List (Field σ)) (draft : σ) (m : Member) : σ → Prop
  | known {field : Field σ} {put : σ → σ}
      (hfield : fields.find? (fun field => field.name == m.key) = some field)
      (hnew : field.given draft = false) (hread : field.reader.Reads m.value put) :
      Takes fields draft m (put draft)
  | unknown (hfield : fields.find? (fun field => field.name == m.key) = none)
      (hvalue : IsValue m.value) : Takes fields draft m draft

/-- A member is taken into the part of a draft that its field is kept in. -/
lemma Takes.of {β : Type} {name : String} {required : Bool} {reader : Reader β}
    {get : σ → Option β} {put : β → σ → σ} {b : β}
    (hfield : fields.find? (fun field => field.name == m.key) =
      some (.of name required reader get put))
    (hnew : get draft = none) (hread : reader.Reads m.value b) :
    Takes fields draft m (put b draft) := by
  refine .known hfield ?_ (hread.map put)
  show (get draft).isSome = false
  rw [hnew]
  rfl

/-- What members do to a draft, one after the other. -/
inductive Collects (fields : List (Field σ)) : σ → List Member → σ → Prop
  | nil {draft : σ} : Collects fields draft [] draft
  | cons {draft d e : σ} {m : Member} {ms : List Member} (hfirst : Takes fields draft m d)
      (hothers : Collects fields d ms e) : Collects fields draft (m :: ms) e

lemma Collects.append {ms' : List Member} (h : Collects fields draft ms d)
    (h' : Collects fields d ms' e) : Collects fields draft (ms ++ ms') e := by
  induction h with
  | nil => exact h'
  | cons hfirst _ ih => exact .cons hfirst (ih h')

/-- A member is read as what it does to the draft. -/
lemma Takes.answersPart {p : List Char} (h : Takes fields draft m d) (hp : MemberText m p) :
    AnswersPart fields draft (some d) p := by
  have hkey := stringText_writeString m.key
  cases h with
  | known hfield hnew hread =>
    exact answersPart_of_new hkey hp.pairText hfield hnew (answers_some_iff.mpr hread)
  | unknown hfield hvalue => exact answersPart_of_unknown hkey hp.pairText hfield hvalue

/-- The members of an object are read as what they do to the draft. -/
lemma Collects.answersParts {parts : List (List Char)} (h : Collects fields draft ms e)
    (hparts : List.Forall₂ MemberText ms parts) : AnswersParts fields draft (some e) parts := by
  induction hparts generalizing draft with
  | nil =>
    cases h
    exact .nil
  | cons hp _ ih =>
    cases h with
    | cons hfirst hothers => exact .cons (hfirst.answersPart hp) (ih hothers)

end Members

/-! ## Records -/

variable {σ α : Type} {schema : Schema σ α} {ms : List Member}

/-- **An object is read as the record of the draft that its members leave.** -/
theorem Schema.reads_of_objectText (draft : σ) (h : ObjectText ms t)
    (hcollects : Collects schema.fields schema.blank ms draft) (hcomplete : schema.Complete draft) :
    schema.reader.Reads t (schema.finish draft) := by
  obtain ⟨hparts⟩ := h
  have hanswers := schema.answers_of_pairsText (.members _) (hcollects.answersParts hparts)
  rw [Option.bind_some, Schema.record?_eq_some_iff.mpr ⟨hcomplete, rfl⟩] at hanswers
  exact answers_some_iff.mp hanswers

end DeviceFleet.Json
