/-
# Decoding by fields

What a record is decoded from depends on the values of its keys only: not on the order of the
members, nor on space, nor on how strings and numbers are spelled, nor on members with other keys.
`Reader.DecodesBy` says so of a reader and the rules of the fields of its records, and every reader
of a schema with a layout decodes by the rules of its fields (`Layout.decodesBy`).

A reader that lets one key occur once tells whether the key occurs twice.  So whether any key does
depends on the text of the object only (`nodup_keys`).
-/
import DeviceFleet.Proofs.Json.Fields
import DeviceFleet.Proofs.Json.Lookup

namespace DeviceFleet.Json

/-- The members whose keys are those of fields. -/
def knownMembers {α : Type} (rules : List (FieldRule α)) (ms : List (Option String × Value)) :
    List (Option String × Value) :=
  ms.filter fun m => m.1 ∈ rules.map fun rule => some rule.key

/-- The reader decodes objects and arrays by the rules of the fields. -/
structure Reader.DecodesBy {α : Type} (reader : Reader α) (rules : List (FieldRule α)) :
    Prop where
  /-- An object is decoded exactly if its keys are texts and each field admits the values of its
  key: one value that stands for something, or none if the field has a default. -/
  succeeds : ∀ ms t before after, Spells (.object ms) t → Gap before → Gap after →
    ((∃ a, reader.decode (before ++ t ++ after) = .ok a) ↔
      (∀ m ∈ ms, m.1 ≠ none) ∧ ∀ rule ∈ rules, rule.Admits (valuesOf rule.key ms))
  /-- The decoded record has what the values stand for, and the defaults of the other fields. -/
  holds : ∀ ms t before after a, Spells (.object ms) t → Gap before → Gap after →
    reader.decode (before ++ t ++ after) = .ok a →
      ∀ rule ∈ rules, rule.Holds a (valuesOf rule.key ms)
  /-- The order of the members, other members, space and spelling make no difference. -/
  unchanged : ∀ ms ms' t t' before after before' after', Spells (.object ms) t →
    Spells (.object ms') t' → Gap before → Gap after → Gap before' → Gap after' →
    (∀ m ∈ ms, m.1 ≠ none) → (∀ m ∈ ms', m.1 ≠ none) →
    (knownMembers rules ms).Perm (knownMembers rules ms') →
      (reader.decode (before ++ t ++ after)).toOption =
        (reader.decode (before' ++ t' ++ after')).toOption
  /-- An array is decoded as the object with the same values under the first keys. -/
  array : ∀ vs t t' before after before' after', vs.length ≤ rules.length →
    Spells (.list vs) t → Spells (.object (inOrder (rules.map FieldRule.key) vs)) t' →
    Gap before → Gap after → Gap before' → Gap after' →
      (reader.decode (before ++ t ++ after)).toOption =
        (reader.decode (before' ++ t' ++ after')).toOption

section Members

variable {α : Type} {rules : List (FieldRule α)} {rule : FieldRule α} {a : α}
  {ms ms' : List (Option String × Value)}

/-- The values of a field are those among the members with known keys. -/
lemma valuesOf_knownMembers (hrule : rule ∈ rules) (ms : List (Option String × Value)) :
    valuesOf rule.key (knownMembers rules ms) = valuesOf rule.key ms := by
  have hkey : some rule.key ∈ rules.map fun rule => some rule.key :=
    List.mem_map.mpr ⟨rule, hrule, rfl⟩
  rw [valuesOf, valuesOf, knownMembers, List.filter_filter]
  congr 2
  funext m
  by_cases hm : m.1 = some rule.key
  · simp [hm, hkey]
  · simp [hm]

lemma FieldRule.holds_of_perm {vs vs' : List Value} (h : vs.Perm vs') (hholds : rule.Holds a vs) :
    rule.Holds a vs' := by
  rcases vs with _ | ⟨v, _ | ⟨w, vs⟩⟩
  · rwa [List.nil_perm.mp h]
  · rwa [← List.singleton_perm.mp h]
  · exact hholds.elim

/-- What an object stands for depends on the members with known keys only, and not on their
order. -/
lemma denotes_of_perm (hms' : ∀ m ∈ ms', m.1 ≠ none)
    (h : (knownMembers rules ms).Perm (knownMembers rules ms'))
    (hdenotes : Denotes rules (.object ms) a) : Denotes rules (.object ms') a := by
  refine ⟨hms', fun rule hrule => ?_⟩
  have hvalues : (valuesOf rule.key ms).Perm (valuesOf rule.key ms') := by
    rw [← valuesOf_knownMembers hrule ms, ← valuesOf_knownMembers hrule ms']
    exact (h.filter _).map _
  exact FieldRule.holds_of_perm hvalues (hdenotes.2 rule hrule)

/-- An array stands for what the object with the same values under the first keys stands for. -/
lemma denotes_list_iff {vs : List Value} (hlength : vs.length ≤ rules.length) :
    Denotes rules (.list vs) a ↔
      Denotes rules (.object (inOrder (rules.map FieldRule.key) vs)) a := by
  have hkeys : ∀ m ∈ inOrder (rules.map FieldRule.key) vs, m.1 ≠ none := ne_none_of_mem_inOrder
  constructor
  · rintro ⟨-, hholds⟩
    exact ⟨hkeys, hholds⟩
  · rintro ⟨-, hholds⟩
    exact ⟨hlength, hholds⟩

end Members

section Readers

variable {α : Type} {reader : Reader α} {rules : List (FieldRule α)} {v v' : Value}
  {t t' before after before' after' : List Char}

/-- A spelled value is decoded as the record that it stands for. -/
lemma decode_eq_ok_iff (h : reader.Follows (Denotes rules)) (ht : Spells v t)
    (hbefore : Gap before) (hafter : Gap after) {a : α} :
    reader.decode (before ++ t ++ after) = .ok a ↔ Denotes rules v a := by
  obtain ⟨answer, hanswers, hdenotes⟩ := h v t ht
  rw [← toOption_eq_some_iff, hanswers.decode hbefore hafter, hdenotes]

lemma decode_self_eq_ok_iff (h : reader.Follows (Denotes rules)) (ht : Spells v t) {a : α} :
    reader.decode t = .ok a ↔ Denotes rules v a := by
  have hdecode := decode_eq_ok_iff h ht gap_nil gap_nil (a := a)
  rwa [List.nil_append, List.append_nil] at hdecode

/-- Values that stand for the same records are decoded alike. -/
lemma toOption_decode_congr (h : reader.Follows (Denotes rules)) (ht : Spells v t)
    (ht' : Spells v' t') (hbefore : Gap before) (hafter : Gap after) (hbefore' : Gap before')
    (hafter' : Gap after') (hiff : ∀ a, Denotes rules v a ↔ Denotes rules v' a) :
    (reader.decode (before ++ t ++ after)).toOption =
      (reader.decode (before' ++ t' ++ after')).toOption := by
  refine Option.ext fun a => ?_
  rw [toOption_eq_some_iff, toOption_eq_some_iff, decode_eq_ok_iff h ht hbefore hafter,
    decode_eq_ok_iff h ht' hbefore' hafter', hiff]

end Readers

/-- **The reader of a schema decodes by the rules of its fields.** -/
theorem Layout.decodesBy {σ α : Type} {schema : Schema σ α} (layout : Layout schema) :
    schema.reader.DecodesBy layout.rules where
  succeeds ms t before after ht hbefore hafter := by
    simp only [decode_eq_ok_iff layout.follows ht hbefore hafter]
    constructor
    · rintro ⟨a, hkeys, hholds⟩
      exact ⟨hkeys, fun rule hrule => (hholds rule hrule).admits⟩
    · rintro ⟨hkeys, hadmits⟩
      exact exists_denotes ht hkeys hadmits
  holds ms t before after a ht hbefore hafter h :=
    ((decode_eq_ok_iff layout.follows ht hbefore hafter).mp h).2
  unchanged ms ms' t t' before after before' after' ht ht' hbefore hafter hbefore' hafter' hms hms'
      hperm := by
    refine toOption_decode_congr layout.follows ht ht' hbefore hafter hbefore' hafter' fun a => ?_
    exact ⟨denotes_of_perm hms' hperm, denotes_of_perm hms hperm.symm⟩
  array vs t t' before after before' after' hlength ht ht' hbefore hafter hbefore' hafter' :=
    toOption_decode_congr layout.follows ht ht' hbefore hafter hbefore' hafter' fun _ =>
      denotes_list_iff hlength

/-! ## Keys that do not occur twice -/

section Keys

variable {t : List Char} {ms ms' : List (Option String × Value)}

/-- How an object is read of which one key may occur once, with any value. -/
def onceSchema (key : String) : Schema (Option Unit) Unit where
  title := "object"
  fields := [.of key false (valueReader.map fun _ => ()) id fun v _ => some v]
  blank := none
  finish _ := ()

lemma follows_any : (valueReader.map fun _ => ()).Follows fun _ _ => True := by
  intro v t h
  exact ⟨some (), (answers_some_iff.mpr h.isValue.reads).map _, by simp⟩

/-- The part of its drafts. -/
def onceLayout (key : String) : Layout (onceSchema key) where
  slots := [⟨⟨key, Unit, fun _ _ => True, some (), id⟩, valueReader.map fun _ => (), follows_any,
    id, fun v _ => some v⟩]
  fields_eq := rfl
  apart := ⟨by simp, by simp, by simp⟩
  get_blank := by simp [onceSchema]
  part_of_given := by simp
  part_of_default := by simp
  ext := by simp

lemma length_valuesOf (key : String) (ms : List (Option String × Value)) :
    (valuesOf key ms).length = (ms.map Prod.fst).count (some key) := by
  rw [valuesOf, List.length_map, List.count, List.countP_map, List.countP_eq_length_filter]
  congr 2
  funext m
  exact (beq_eq_decide m.1 (some key)).symm

lemma exists_decode_once_iff (ht : Spells (.object ms) t) (key : String) :
    (∃ a, (onceSchema key).reader.decode t = .ok a) ↔
      (∀ m ∈ ms, m.1 ≠ none) ∧ (ms.map Prod.fst).count (some key) ≤ 1 := by
  have h := (onceLayout key).decodesBy.succeeds ms t [] [] ht gap_nil gap_nil
  rw [List.nil_append, List.append_nil] at h
  rw [h, ← length_valuesOf]
  refine and_congr_right fun _ => ?_
  simp only [Layout.rules, onceLayout, List.map_cons, List.map_nil, List.forall_mem_singleton]
  rcases valuesOf key ms with _ | ⟨v, _ | ⟨w, vs⟩⟩ <;> simp [FieldRule.Admits]

/-- If no key occurs twice in an object that a text spells, then none does in any. -/
lemma nodup_keys (ht : Spells (.object ms) t) (ht' : Spells (.object ms') t)
    (hkeys : ∀ m ∈ ms, m.1 ≠ none) (hnodup : (ms.map Prod.fst).Nodup) :
    (ms'.map Prod.fst).Nodup := by
  have honce : ∀ key, (∀ m ∈ ms', m.1 ≠ none) ∧ (ms'.map Prod.fst).count (some key) ≤ 1 := by
    intro key
    rw [← exists_decode_once_iff ht' key, exists_decode_once_iff ht key]
    exact ⟨hkeys, List.nodup_iff_count_le_one.mp hnodup (some key)⟩
  refine List.nodup_iff_count_le_one.mpr fun name => ?_
  rcases name with _ | key
  · have hnone : none ∉ ms'.map Prod.fst := by
      intro hmem
      obtain ⟨m, hm, hname⟩ := List.mem_map.mp hmem
      exact (honce "").1 m hm hname
    rw [List.count_eq_zero_of_not_mem hnone]
    exact Nat.zero_le 1
  · exact (honce key).2

end Keys
end DeviceFleet.Json
