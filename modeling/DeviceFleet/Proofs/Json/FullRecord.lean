/-
# Records without missing fields

If a record has one value for each of its fields (`Value.Has`), then it stands for what these values
stand for, part by part (`denotes_iff_of_has`).  That is so of an object with any other members
besides, in any order, and of an array with the values in the order of the fields; and if no field
has a default, it is so of every record (`exists_has_of_denotes`).
-/
import DeviceFleet.Proofs.Json.Decoding

namespace DeviceFleet.Json

variable {α : Type} {rules : List (FieldRule α)} {keys : List String} {v : Value} {vs : List Value}
  {ms : List (Option String × Value)} {a : α}

/-- A record has one value for each of the keys: an object among its members, and an array in the
order of the keys. -/
def Value.Has (keys : List String) (vs : List Value) : Value → Prop
  | .object ms => (∀ m ∈ ms, m.1 ≠ none) ∧ keys.map (valuesOf · ms) = vs.map ([·])
  | .list ws => ws = vs ∧ vs.length = keys.length
  | _ => False

/-- A key that is not among those in order has no value. -/
lemma valuesOf_inOrder_of_notMem {key : String} (hkey : key ∉ keys) (vs : List Value) :
    valuesOf key (inOrder keys vs) = [] := by
  rw [valuesOf, List.map_eq_nil_iff, List.filter_eq_nil_iff]
  intro m hm hname
  obtain ⟨other, hother, hmember⟩ := List.mem_map.mp (List.of_mem_zip hm).1
  rw [← hmember, decide_eq_true_eq, Option.some.injEq] at hname
  exact hkey (hname ▸ hother)

/-- Values under different keys in order are the values of these keys. -/
lemma map_valuesOf_inOrder (hkeys : keys.Nodup) (hlength : vs.length = keys.length) :
    keys.map (valuesOf · (inOrder keys vs)) = vs.map ([·]) := by
  induction keys generalizing vs with
  | nil =>
    obtain rfl := List.length_eq_zero_iff.mp hlength
    rfl
  | cons key keys ih =>
    obtain ⟨hkey, hkeys⟩ := List.nodup_cons.mp hkeys
    rcases vs with _ | ⟨v, vs⟩
    · cases hlength
    have hfirst : valuesOf key (inOrder (key :: keys) (v :: vs)) = [v] :=
      valuesOf_cons_of_eq.trans (congrArg (v :: ·) (valuesOf_inOrder_of_notMem hkey vs))
    have hothers : keys.map (valuesOf · (inOrder (key :: keys) (v :: vs))) =
        keys.map (valuesOf · (inOrder keys vs)) := by
      refine List.map_congr_left fun other hother => valuesOf_cons_of_ne fun heq => ?_
      exact hkey (Option.some.inj heq ▸ hother)
    rw [List.map_cons, hfirst, hothers, ih hkeys (Nat.succ.inj hlength), List.map_cons]

lemma holds_iff_of_map (h : (rules.map FieldRule.key).map (valuesOf · ms) = vs.map ([·])) :
    (∀ rule ∈ rules, rule.Holds a (valuesOf rule.key ms)) ↔
      List.Forall₂ (fun rule v => rule.stands v (rule.part a)) rules vs := by
  induction rules generalizing vs with
  | nil =>
    obtain rfl := List.map_eq_nil_iff.mp h.symm
    simp
  | cons rule rules ih =>
    rcases vs with _ | ⟨v, vs⟩
    · cases h
    have hfirst : valuesOf rule.key ms = [v] := (List.cons.inj h).1
    rw [List.forall_mem_cons, hfirst, ih (List.cons.inj h).2, List.forall₂_cons]
    rfl

/-- If a record has one value for each field, each part is what its value stands for. -/
lemma denotes_iff_of_has (hkeys : (rules.map FieldRule.key).Nodup)
    (h : v.Has (rules.map FieldRule.key) vs) :
    Denotes rules v a ↔ List.Forall₂ (fun rule v => rule.stands v (rule.part a)) rules vs := by
  cases v with
  | object ms => exact (and_iff_right h.1).trans (holds_iff_of_map h.2)
  | list ws =>
    obtain ⟨rfl, hlength⟩ := h
    -- an array is the object with the same values under the keys
    have hle : ws.length ≤ rules.length := by rw [hlength, List.length_map]
    refine (denotes_list_iff hle).trans ((and_iff_right ne_none_of_mem_inOrder).trans ?_)
    exact holds_iff_of_map (map_valuesOf_inOrder hkeys hlength)
  | _ => exact h.elim

/-! ## Fields without default -/

lemma exists_of_holds {rule : FieldRule α} (hdefault : rule.default? = none)
    (h : rule.Holds a vs) : ∃ v, vs = [v] := by
  rcases vs with _ | ⟨v, _ | ⟨w, vs⟩⟩
  · rw [FieldRule.Holds, hdefault] at h
    cases h
  · exact ⟨v, rfl⟩
  · exact h.elim

lemma exists_map_valuesOf_eq (h : ∀ key ∈ keys, ∃ v, valuesOf key ms = [v]) :
    ∃ vs : List Value, keys.map (valuesOf · ms) = vs.map ([·]) := by
  induction keys with
  | nil => exact ⟨[], rfl⟩
  | cons key keys ih =>
    obtain ⟨⟨v, hv⟩, hothers⟩ := List.forall_mem_cons.mp h
    obtain ⟨vs, hvs⟩ := ih hothers
    exact ⟨v :: vs, by rw [List.map_cons, hv, hvs, List.map_cons]⟩

/-- If each key has a value in order, there are as many values as keys. -/
lemma length_eq_of_valuesOf_ne_nil (hkeys : keys.Nodup) (hle : vs.length ≤ keys.length)
    (h : ∀ key ∈ keys, valuesOf key (inOrder keys vs) ≠ []) : vs.length = keys.length := by
  induction keys generalizing vs with
  | nil => exact Nat.le_zero.mp hle
  | cons key keys ih =>
    obtain ⟨hkey, hkeys⟩ := List.nodup_cons.mp hkeys
    obtain ⟨hfirst, hothers⟩ := List.forall_mem_cons.mp h
    rcases vs with _ | ⟨v, vs⟩
    · rw [Slot.inOrder_nil] at hfirst
      exact absurd rfl hfirst
    refine congrArg Nat.succ (ih hkeys (Nat.le_of_succ_le_succ hle) fun other hother => ?_)
    have hne : some key ≠ some other := fun heq => hkey (Option.some.inj heq ▸ hother)
    have hvalues := hothers other hother
    rwa [inOrder, List.map_cons, List.zip_cons_cons, valuesOf_cons_of_ne hne] at hvalues

/-- If no field has a default, every record has one value for each field. -/
lemma exists_has_of_denotes (hdefault : ∀ rule ∈ rules, rule.default? = none)
    (hkeys : (rules.map FieldRule.key).Nodup) (h : Denotes rules v a) :
    ∃ vs, v.Has (rules.map FieldRule.key) vs ∧
      List.Forall₂ (fun rule v => rule.stands v (rule.part a)) rules vs := by
  suffices hhas : ∃ vs, v.Has (rules.map FieldRule.key) vs by
    obtain ⟨vs, hvs⟩ := hhas
    exact ⟨vs, hvs, (denotes_iff_of_has hkeys hvs).mp h⟩
  cases v with
  | object ms =>
    obtain ⟨hnames, hholds⟩ := h
    have hvalues : ∀ key ∈ rules.map FieldRule.key, ∃ v, valuesOf key ms = [v] :=
      List.forall_mem_map.mpr fun rule hrule =>
        exists_of_holds (hdefault rule hrule) (hholds rule hrule)
    obtain ⟨vs, hvs⟩ := exists_map_valuesOf_eq hvalues
    exact ⟨vs, hnames, hvs⟩
  | list ws =>
    obtain ⟨hle, hholds⟩ := h
    have hvalues : ∀ key ∈ rules.map FieldRule.key,
        valuesOf key (inOrder (rules.map FieldRule.key) ws) ≠ [] := by
      refine List.forall_mem_map.mpr fun rule hrule hnil => ?_
      obtain ⟨w, hw⟩ := exists_of_holds (hdefault rule hrule) (hholds rule hrule)
      rw [hnil] at hw
      cases hw
    refine ⟨ws, rfl, length_eq_of_valuesOf_ne_nil hkeys ?_ hvalues⟩
    rwa [List.length_map]
  | _ => exact h.elim

end DeviceFleet.Json
