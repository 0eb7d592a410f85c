/-
# Looking up members of objects

`member?` finds the value of a key in the text of an object, `at?` follows a path of keys, and a
text mentions a key if some path ends with it (`Mentions`).  In a written object these are what they
are in the list of its members (`member?_writeObject`, `mentions_writeObject`), if every value is
one and no key occurs twice.
-/
import DeviceFleet.Proofs.Json.WrittenRecord
import Mathlib.Data.List.Nodup

namespace DeviceFleet.Json

variable {s t r gap : List Char} {key : String} {m : Member} {ms : List Member}

/-! ## The text of a value -/

/-- Reads a value as its own text. -/
def valueReader : Reader (List Char) where
  read s := (skipValue s).map fun rest =>
    ((skipSpace s).take ((skipSpace s).length - rest.length), rest)
  shorter := by
    intro s a rest h
    cases hskip : skipValue s with
    | error e => simp [hskip, Except.map] at h
    | ok r =>
      simp only [hskip, Except.map, Except.ok.injEq, Prod.mk.injEq] at h
      rw [← h.2]
      exact length_skipValue hskip

lemma IsValue.reads (h : IsValue t) : valueReader.Reads t t := by
  intro gap rest hgap hrest
  have hskip : skipValue (gap ++ (t ++ rest)) = .ok rest := by
    rw [skipValue, skipNested_gap hgap, h.skip [] rest hrest, skipAfter]
  have hspace : skipSpace (gap ++ (t ++ rest)) = t ++ rest := by
    obtain ⟨c, s, rfl, hc, -⟩ := h.opens
    exact skipSpace_gap_cons hgap hc _
  simp [valueReader, hskip, hspace, Except.map]

/-! ## Members -/

/-- How the value of a key is read from an object, whatever other members there are. -/
def memberSchema (key : String) : Schema (Option (List Char)) (Option (List Char)) where
  title := "object"
  fields := [.of key false valueReader id fun value _ => some value]
  blank := none
  finish := id

/-- The value of a key in the text of an object; a text that is no object has no keys. -/
def member? (key : String) (t : List Char) : Option (List Char) :=
  if (skipSpace t).head? = some '\x7b' then
    match (memberSchema key).reader.decode t with
    | .ok value => value
    | .error _ => none
  else none

/-- The value at the end of a path of keys. -/
def at? : List String → List Char → Option (List Char)
  | [], t => some t
  | key :: path, t => (member? key t).bind (at? path)

/-- The key is one of an object in the text, however deep. -/
def Mentions (key : String) (t : List Char) : Prop :=
  ∃ path value, at? (path ++ [key]) t = some value

/-- Members with values whose keys do not occur twice. -/
structure WellFormed (ms : List Member) : Prop where
  /-- Every value is one. -/
  values : ∀ m ∈ ms, IsValue m.value
  /-- No key occurs twice. -/
  keys : (ms.map Member.key).Nodup

lemma WellFormed.of_cons (h : WellFormed (m :: ms)) :
    IsValue m.value ∧ (∀ n ∈ ms, n.key ≠ m.key) ∧ WellFormed ms := by
  obtain ⟨hvalue, hvalues⟩ := List.forall_mem_cons.mp h.values
  obtain ⟨hnotin, hkeys⟩ := List.nodup_cons.mp h.keys
  refine ⟨hvalue, fun n hn hkey => hnotin ?_, hvalues, hkeys⟩
  exact List.mem_map.mpr ⟨n, hn, hkey⟩

/-- A key finds its member. -/
lemma WellFormed.find?_of_mem (h : WellFormed ms) (hm : m ∈ ms) :
    ms.find? (fun n => n.key == m.key) = some m := by
  have hsome : (ms.find? fun n => n.key == m.key).isSome = true :=
    List.find?_isSome.mpr ⟨m, hm, by simp⟩
  obtain ⟨n, hn⟩ := Option.isSome_iff_exists.mp hsome
  have hkey : n.key = m.key := by simpa using List.find?_some hn
  rw [hn, List.inj_on_of_nodup_map h.keys (List.mem_of_find?_eq_some hn) hm hkey]

/-- A member with another key leaves the draft as it is. -/
lemma takes_other {draft : Option (List Char)} (hvalue : IsValue m.value) (hkey : m.key ≠ key) :
    Takes (memberSchema key).fields draft m draft :=
  .unknown (List.find?_cons_of_neg (by simpa [Field.of] using hkey.symm)) hvalue

lemma takes_member (hvalue : IsValue m.value) (hkey : m.key = key) :
    Takes (memberSchema key).fields none m (some m.value) :=
  .of (List.find?_cons_of_pos (by simpa [Field.of] using hkey.symm)) rfl hvalue.reads

lemma collects_others {draft : Option (List Char)} (hms : WellFormed ms)
    (hother : ∀ m ∈ ms, m.key ≠ key) : Collects (memberSchema key).fields draft ms draft := by
  induction ms with
  | nil => exact .nil
  | cons m ms ih =>
    obtain ⟨hvalue, -, hms⟩ := hms.of_cons
    obtain ⟨hkey, hother⟩ := List.forall_mem_cons.mp hother
    exact .cons (takes_other hvalue hkey) (ih hms hother)

lemma collects_member (hms : WellFormed ms) (key : String) :
    Collects (memberSchema key).fields none ms
      ((ms.find? fun m => m.key == key).map Member.value) := by
  induction ms with
  | nil => exact .nil
  | cons m ms ih =>
    obtain ⟨hvalue, hother, hms⟩ := hms.of_cons
    by_cases hkey : m.key = key
    · rw [List.find?_cons_of_pos (by simp [hkey])]
      exact .cons (takes_member hvalue hkey) (collects_others hms (hkey ▸ hother))
    · rw [List.find?_cons_of_neg (by simp [hkey])]
      exact .cons (takes_other hvalue hkey) (ih hms)

/-- The value of a key in an object is the value of its member. -/
lemma member?_of_objectText (h : ObjectText ms t) (hms : WellFormed ms) (key : String) :
    member? key t = (ms.find? fun m => m.key == key).map Member.value := by
  have hreads := (memberSchema key).reads_of_objectText _ h (collects_member hms key)
    (by simp [Schema.Complete, memberSchema, Field.of])
  have hbrace : (skipSpace t).head? = some '\x7b' := by
    obtain ⟨-⟩ := h
    rw [skipSpace_cons rfl]
    rfl
  rw [member?, if_pos hbrace, hreads.decode_self]
  rfl

lemma member?_writeObject (hms : WellFormed ms) (key : String) :
    member? key (writeObject ms) = (ms.find? fun m => m.key == key).map Member.value :=
  member?_of_objectText (objectText_writeObject ms) hms key

/-- A text that starts with another character than an object has no members. -/
lemma member?_of_cons {c : Char} (hspace : isSpace c = false) (hbrace : c ≠ '\x7b')
    (key : String) (s : List Char) : member? key (c :: s) = none := by
  rw [member?, skipSpace_cons hspace, if_neg (by simpa using hbrace)]

lemma member?_writeString (key text : String) : member? key (writeString text) = none :=
  member?_of_cons rfl (by decide) key _

lemma member?_writeNat (key : String) (n : Nat) : member? key (writeNat n) = none := by
  obtain ⟨c, digits, hwritten, hc⟩ := exists_writeNat_eq n
  rw [hwritten]
  exact member?_of_cons (isSpace_of_isDigit hc) (ne_of_isDigit hc (by decide)) key digits

/-! ## Mentioned keys -/

/-- A key is mentioned at the top or in the value of some member. -/
lemma mentions_iff : Mentions key t ↔
    (∃ value, member? key t = some value) ∨
      ∃ outer value, member? outer t = some value ∧ Mentions key value := by
  constructor
  · rintro ⟨path, value, h⟩
    cases path with
    | nil => exact .inl ⟨value, by simpa [at?] using h⟩
    | cons outer path =>
      obtain ⟨inside, houter, hinside⟩ := Option.bind_eq_some_iff.mp h
      exact .inr ⟨outer, inside, houter, path, value, hinside⟩
  · rintro (⟨value, h⟩ | ⟨outer, inside, houter, path, value, hinside⟩)
    · exact ⟨[], value, by simp [at?, h]⟩
    · exact ⟨outer :: path, value, Option.bind_eq_some_iff.mpr ⟨inside, houter, hinside⟩⟩

lemma not_mentions (h : ∀ key, member? key t = none) : ¬ Mentions key t := by
  rw [mentions_iff]
  simp only [h, reduceCtorEq, false_and, exists_false, or_self, not_false_eq_true]

/-- The keys of a written object are those of its members and those in their values. -/
lemma mentions_writeObject (hms : WellFormed ms) :
    Mentions key (writeObject ms) ↔ ∃ m ∈ ms, m.key = key ∨ Mentions key m.value := by
  rw [mentions_iff]
  simp only [member?_writeObject hms]
  constructor
  · rintro (⟨value, h⟩ | ⟨outer, value, h, hinside⟩)
    · obtain ⟨m, hfind, -⟩ := Option.map_eq_some_iff.mp h
      exact ⟨m, List.mem_of_find?_eq_some hfind, .inl (by simpa using List.find?_some hfind)⟩
    · obtain ⟨m, hfind, rfl⟩ := Option.map_eq_some_iff.mp h
      exact ⟨m, List.mem_of_find?_eq_some hfind, .inr hinside⟩
  · rintro ⟨m, hm, hkey | hinside⟩
    · refine .inl ⟨m.value, ?_⟩
      rw [← hkey, hms.find?_of_mem hm]
      rfl
    · refine .inr ⟨m.key, m.value, ?_, hinside⟩
      rw [hms.find?_of_mem hm]
      rfl

/-! ## Objects with one member -/

lemma wellFormed_singleton (h : IsValue m.value) : WellFormed [m] :=
  ⟨List.forall_mem_singleton.mpr h, List.nodup_singleton _⟩

lemma member?_writeObject_singleton (h : IsValue m.value) (key : String) :
    member? key (writeObject [m]) = if m.key = key then some m.value else none := by
  rw [member?_writeObject (wellFormed_singleton h), List.find?_singleton]
  simp only [beq_iff_eq]
  split <;> rfl

lemma mentions_writeObject_singleton (h : IsValue m.value) :
    Mentions key (writeObject [m]) ↔ m.key = key ∨ Mentions key m.value := by
  rw [mentions_writeObject (wellFormed_singleton h)]
  simp only [List.mem_singleton, exists_eq_left]

end DeviceFleet.Json
