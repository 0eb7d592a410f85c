/-
# What a fault says

A fault carries texts, at whatever depth (`Carries`): every note, and the whole chain of every fault
in it that is no aggregate under notes.  All of them occur in its rendering
(`Carries.occurs_rendering`), so the text of an aggregate says what its members carry.

A report takes an aggregate over by its members.  What is carried below the outermost notes is
carried by what is taken over (`Carries.exists_flattened_of_root`), and so are these notes, unless
they are around an aggregate.
-/
import DeviceFleet.Proofs.Fault.Notes
import Mathlib.Data.List.Infix

namespace DeviceFleet

/-- The text stands somewhere in the other one. -/
def Text.Occurs (part whole : String) : Prop := part.toList <:+: whole.toList

instance (part whole : String) : Decidable (Text.Occurs part whole) :=
  inferInstanceAs (Decidable (_ <:+: _))

open Text

variable {text : String} {texts : List String}

/-! ## Texts that are put together -/

lemma occurs_joined_head (separator text : String) (texts : List String) :
    Occurs text (joined separator (text :: texts)) := by
  rw [Occurs, joined, String.toList_intercalate, List.map_cons]
  by_cases h : texts = []
  · rw [h, List.map_nil, List.intercalate_singleton]
  · rw [List.intercalate_cons_of_ne_nil (by simpa using h), List.append_assoc]
    exact (List.prefix_append _ _).isInfix

lemma occurs_joined_tail (separator text : String) (texts : List String) :
    Occurs (joined separator texts) (joined separator (text :: texts)) := by
  rw [Occurs, joined, joined, String.toList_intercalate, String.toList_intercalate, List.map_cons]
  by_cases h : texts = []
  · rw [h, List.map_nil, List.intercalate_nil]
    exact List.nil_infix
  · rw [List.intercalate_cons_of_ne_nil (by simpa using h)]
    exact (List.suffix_append _ _).isInfix

/-- The first of the texts, and then each other one behind a separator. -/
lemma joined_cons (separator text : String) (texts : List String) :
    joined separator (text :: texts) = text ++ String.join (texts.map (separator ++ ·)) := by
  induction texts generalizing text with
  | nil => simp [joined]
  | cons next texts ih =>
    have hnext := ih next
    rw [joined] at hnext ⊢
    rw [String.intercalate_cons_cons, hnext, List.map_cons, String.join_cons,
      String.append_assoc, String.append_assoc]

/-- The text of an aggregate in characters: its head line, and each member behind a mark. -/
lemma toList_aggregateText (texts : List String) :
    (aggregateText texts).toList = (aggregateHeader texts.length).toList ++
      texts.flatMap fun text => memberMark.toList ++ text.toList := by
  rw [aggregateText, String.toList_append, String.toList_join, List.flatMap_map]
  simp only [String.toList_append]

lemma occurs_aggregateText (h : text ∈ texts) : Occurs text (aggregateText texts) := by
  obtain ⟨before, after, rfl⟩ := List.append_of_mem h
  rw [Occurs, toList_aggregateText, List.flatMap_append, List.flatMap_cons, List.append_assoc,
    ← List.append_assoc]
  exact ((List.prefix_append _ _).isInfix.trans (List.suffix_append _ _).isInfix).trans
    (List.suffix_append _ _).isInfix

namespace Fault

/-! ## What is carried -/

/-- The texts that a fault carries, at whatever depth. -/
inductive Carries : Fault → String → Prop
  /-- A note. -/
  | note (text : String) (f : Fault) : Carries (.context text f) text
  /-- What is carried under a note. -/
  | noted {text note : String} {f : Fault} (h : Carries f text) : Carries (.context note f) text
  /-- What a member of an aggregate carries. -/
  | member {text : String} {members : List Fault} {m : Fault} (hm : m ∈ members)
      (h : Carries m text) : Carries (.aggregate members) text
  /-- The whole chain of a fault that is no aggregate under notes. -/
  | chain {f : Fault} (hf : ∀ members, f.root ≠ .aggregate members) : Carries f f.rendering

variable {f : Fault} {members : List Fault}

@[simp] lemma root_aggregate (members : List Fault) :
    (aggregate members).root = .aggregate members := rfl

lemma rendering_aggregate (members : List Fault) :
    (aggregate members).rendering = aggregateText (members.map rendering) := by
  rw [rendering, chain, renderings_eq_map, joined, String.intercalate_singleton]

/-- **What a fault carries occurs in its rendering.** -/
theorem Carries.occurs_rendering (h : f.Carries text) : Occurs text f.rendering := by
  induction h with
  | note text f =>
    rw [rendering, chain_context]
    exact occurs_joined_head _ _ _
  | @noted text note f _ ih =>
    have houter : Occurs f.rendering (context note f).rendering := by
      rw [rendering, rendering, chain_context]
      exact occurs_joined_tail _ _ _
    exact ih.trans houter
  | @member text members m hm _ ih =>
    have houter : Occurs m.rendering (aggregate members).rendering := by
      rw [rendering_aggregate]
      exact occurs_aggregateText (List.mem_map_of_mem hm)
    exact ih.trans houter
  | chain => exact List.infix_refl _

lemma Carries.under (h : f.Carries text) (notes : List String) :
    (under notes f).Carries text := by
  induction notes with
  | nil => exact h
  | cons note notes ih => exact .noted ih

/-- What an aggregate carries is carried by one of its members. -/
lemma Carries.exists_member (h : (aggregate members).Carries text) :
    ∃ m ∈ members, m.Carries text := by
  cases h with
  | member hm h => exact ⟨_, hm, h⟩
  | chain hf => exact absurd (root_aggregate members) (hf members)

/-! ## What is taken over -/

/-- Unless it is an aggregate under notes, a fault is taken over with all that it carries. -/
lemma Carries.exists_flattened (h : f.Carries text)
    (hf : ∀ members, f.root ≠ .aggregate members) : ∃ m ∈ f.flattened, m.Carries text := by
  rw [flattened_of_root_ne hf]
  exact ⟨f, List.mem_singleton_self f, h⟩

/-- **What is carried below the outermost notes is carried by what is taken over.** -/
theorem Carries.exists_flattened_of_root (h : f.root.Carries text) :
    ∃ m ∈ f.flattened, m.Carries text := by
  by_cases haggregate : ∃ members, f.root = .aggregate members
  · obtain ⟨members, hroot⟩ := haggregate
    rw [hroot] at h
    rw [flattened_of_root hroot]
    exact h.exists_member
  · have hf : ∀ members, f.root ≠ .aggregate members := fun members hm => haggregate ⟨members, hm⟩
    obtain ⟨notes, hnotes⟩ := f.exists_under_root
    refine Carries.exists_flattened ?_ hf
    rw [hnotes]
    exact h.under notes

end Fault

/-- An aggregate says what its members carry. -/
lemma Aggregate.occurs_text {a : Aggregate} (h : ∃ m ∈ a.members, m.Carries text) :
    Text.Occurs text a.text := by
  obtain ⟨m, hm, h⟩ := h
  exact h.occurs_rendering.trans (occurs_aggregateText (List.mem_map_of_mem hm))

end DeviceFleet
