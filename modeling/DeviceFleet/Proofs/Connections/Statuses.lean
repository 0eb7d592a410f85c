/-
# Looking connections up

Connections are collected by inserting one entry after another.  What is found for an instance
afterwards is the last entry that was inserted for it, so entries that never disagree about an
instance may be inserted in any order.
-/
import DeviceFleet.Connections.Statuses
import Mathlib.Data.List.Induction

namespace DeviceFleet

/-- The faults that a report takes over from a load. -/
def Loaded.faults (l : Loaded) : List Fault := l.fault.toList.flatMap Fault.flattened

namespace Statuses

variable {s : Statuses} {i j : Identity} {c : ConnectionStatus}

/-- The instances whose connection is recorded. -/
def keys (s : Statuses) : List Identity := s.entries.map Prod.fst

lemma mem_keys_iff : i ∈ s.keys ↔ ∃ c, s.find? i = some c := by
  rw [find?, ← Option.isSome_iff_exists, List.lookup_isSome_iff, keys, List.mem_map]
  refine exists_congr fun e => and_congr_right fun _ => ?_
  rw [beq_iff_eq, eq_comm]

/-! ## Inserting -/

lemma lookup_filter_fst (p : Identity → Bool) (entries : List (Identity × ConnectionStatus)) :
    (entries.filter fun e => p e.1).lookup i = if p i then entries.lookup i else none := by
  induction entries with
  | nil => simp
  | cons e rest ih =>
    obtain ⟨j, c⟩ := e
    rw [List.filter_cons, List.lookup_cons]
    by_cases hi : i = j
    · subst hi
      by_cases hp : p i
      · simp [hp]
      · rw [if_neg hp, ih, if_neg hp, if_neg hp]
    · rw [beq_false_of_ne hi, ← ih]
      split
      · rw [List.lookup_cons, beq_false_of_ne hi]
      · rfl

lemma find?_insert : (s.insert i c).find? j = if j = i then some c else s.find? j := by
  show ((i, c) :: s.entries.filter fun e => e.1 != i).lookup j = _
  rw [List.lookup_cons, lookup_filter_fst (· != i)]
  by_cases h : j = i
  · simp [h]
  · rw [beq_false_of_ne h, if_neg h, if_pos (bne_iff_ne.mpr h), find?]

lemma keys_insert : (s.insert i c).keys = i :: s.keys.filter (· != i) := by
  rw [keys, keys, List.filter_map]
  rfl

lemma nodup_keys_insert (h : s.keys.Nodup) : (s.insert i c).keys.Nodup := by
  rw [keys_insert]
  refine List.nodup_cons.mpr ⟨?_, h.filter _⟩
  simp

/-! ## Collecting -/

variable {entries : List (Identity × ConnectionStatus)}

lemma ofList_concat (entries : List (Identity × ConnectionStatus))
    (e : Identity × ConnectionStatus) :
    ofList (entries ++ [e]) = (ofList entries).insert e.1 e.2 :=
  List.foldl_append

/-- The last entry of an instance is the one that is found. -/
lemma find?_ofList : (ofList entries).find? i = entries.reverse.lookup i := by
  -- the last entry is inserted last, and comes first in the reversed list
  induction entries using List.reverseRecOn with
  | nil => rfl
  | append_singleton entries e ih =>
    rw [ofList_concat, find?_insert, ih, List.reverse_concat, List.lookup_cons]
    by_cases h : i = e.1
    · simp [h]
    · rw [if_neg h, beq_false_of_ne h]

lemma nodup_keys_ofList : (ofList entries).keys.Nodup := by
  induction entries using List.reverseRecOn with
  | nil => exact List.nodup_nil
  | append_singleton entries e ih =>
    rw [ofList_concat]
    exact nodup_keys_insert ih

lemma find?_ofList_eq_none_iff : (ofList entries).find? i = none ↔ ∀ c, (i, c) ∉ entries := by
  rw [find?_ofList, List.lookup_eq_none_iff]
  simp only [List.mem_reverse, bne_iff_ne]
  constructor
  · exact fun h c hc => h _ hc rfl
  · rintro h ⟨j, c⟩ hc rfl
    exact h c hc

lemma mem_of_find?_ofList (h : (ofList entries).find? i = some c) : (i, c) ∈ entries := by
  rw [find?_ofList, List.lookup_eq_some_iff] at h
  obtain ⟨before, after, hentries, -⟩ := h
  rw [← List.mem_reverse, hentries]
  simp

lemma mem_keys_ofList_iff : i ∈ (ofList entries).keys ↔ ∃ c, (i, c) ∈ entries := by
  rw [mem_keys_iff]
  constructor
  · rintro ⟨c, h⟩
    exact ⟨c, mem_of_find?_ofList h⟩
  · rintro ⟨c, h⟩
    rw [← Option.ne_none_iff_exists', Ne, find?_ofList_eq_none_iff]
    exact fun hnone => hnone c h

/-- Leaving out the entries of some instances changes nothing for the others. -/
lemma find?_ofList_filter (p : Identity → Bool) :
    (ofList (entries.filter fun e => p e.1)).find? i =
      if p i then (ofList entries).find? i else none := by
  rw [find?_ofList, find?_ofList, ← List.filter_reverse, lookup_filter_fst]

/-- Entries that never disagree about an instance may be inserted in any order. -/
lemma find?_ofList_perm {entries' : List (Identity × ConnectionStatus)}
    (h : entries'.Perm entries)
    (hagree : ∀ i c c', (i, c) ∈ entries → (i, c') ∈ entries → c = c') :
    (ofList entries').find? i = (ofList entries).find? i := by
  cases hfind : (ofList entries).find? i with
  | none =>
    rw [find?_ofList_eq_none_iff] at hfind ⊢
    exact fun c hc => hfind c (h.mem_iff.mp hc)
  | some c =>
    have hc := mem_of_find?_ofList hfind
    obtain ⟨c', hfind'⟩ := mem_keys_iff.mp (mem_keys_ofList_iff.mpr ⟨c, h.mem_iff.mpr hc⟩)
    rw [hfind', hagree i c' c (h.mem_iff.mp (mem_of_find?_ofList hfind')) hc]

end Statuses

end DeviceFleet
