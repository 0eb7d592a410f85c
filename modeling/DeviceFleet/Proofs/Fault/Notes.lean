/-
# Notes around a fault

Every fault is its root under a list of notes, and no root has a note of its own.  The chain of a
fault is its notes followed by the chain of its root, and what a report takes over from a fault
depends on the root alone: the members of an aggregate, under however many notes, and any other
fault as it is.  So does the cause that a caller finds who looks for one of a known kind.
-/
import DeviceFleet.Fault
import Mathlib.Tactic.Common

namespace DeviceFleet.Fault

/-- The fault under notes, the outermost first. -/
def under (notes : List String) (f : Fault) : Fault := notes.foldr Fault.context f

@[simp] lemma under_nil (f : Fault) : under [] f = f := rfl

@[simp] lemma under_cons (note : String) (notes : List String) (f : Fault) :
    under (note :: notes) f = .context note (under notes f) := rfl

@[simp] lemma root_context (note : String) (f : Fault) : (context note f).root = f.root := rfl

@[simp] lemma root_under (notes : List String) (f : Fault) : (under notes f).root = f.root := by
  induction notes with
  | nil => rfl
  | cons note notes ih => rw [under_cons, root_context, ih]

lemma exists_under_root (f : Fault) : ∃ notes, f = under notes f.root := by
  induction f using root.induct with
  | case1 note cause ih =>
    obtain ⟨notes, h⟩ := ih
    refine ⟨note :: notes, ?_⟩
    rw [root_context, under_cons, ← h]
  | case2 f hf =>
    refine ⟨[], ?_⟩
    rw [under_nil, root]
    exact hf

@[simp] lemma chain_context (note : String) (f : Fault) :
    (context note f).chain = note :: f.chain := by
  rw [chain]

/-- Notes come before what they are about, and leave its texts as they are. -/
lemma chain_under (notes : List String) (f : Fault) : (under notes f).chain = notes ++ f.chain := by
  induction notes with
  | nil => rfl
  | cons note notes ih => rw [under_cons, chain_context, ih, List.cons_append]

/-! ## The cause that a caller looks for -/

/-- A cause of a known kind. -/
inductive Cause where
  /-- A local build cannot be staged. -/
  | build (fault : BuildFault)
  /-- Several faults, told together. -/
  | aggregate (members : List Fault)
  /-- A file operation failed. -/
  | io (fault : IoFault)
  /-- A JSON text was refused. -/
  | json (error : Json.ReadError)

/-- The cause of a known kind under the notes of a fault.  It is not looked for behind the fault of
a local build, which may come from a failed file operation, nor among the members of an
aggregate. -/
def cause? : Fault → Option Cause
  | .context _ f => f.cause?
  | .build fault => some (.build fault)
  | .aggregate members => some (.aggregate members)
  | .io fault => some (.io fault)
  | .json error => some (.json error)
  | .message _ | .yaml _ => none

@[simp] lemma cause?_context (note : String) (f : Fault) :
    (context note f).cause? = f.cause? := by
  rw [cause?]

/-- Notes do not hide the cause. -/
lemma cause?_under (notes : List String) (f : Fault) : (under notes f).cause? = f.cause? := by
  induction notes with
  | nil => rfl
  | cons note notes ih => rw [under_cons, cause?_context, ih]

/-! ## What a report takes over -/

/-- `Unpacks f members` says that a report takes `members` over from `f`: an aggregate is told by
its members, whatever notes are around it, and any other fault is told as it is. -/
inductive Unpacks : Fault → List Fault → Prop
  | members (notes : List String) (members : List Fault) :
      Unpacks (under notes (.aggregate members)) members
  | whole {f : Fault} (h : ∀ notes members, f ≠ under notes (.aggregate members)) :
      Unpacks f [f]

lemma flattened_of_root {f : Fault} {members : List Fault} (h : f.root = .aggregate members) :
    f.flattened = members := by
  rw [flattened, h]

lemma flattened_of_root_ne {f : Fault} (h : ∀ members, f.root ≠ .aggregate members) :
    f.flattened = [f] := by
  rw [flattened]
  split
  · next members hroot => exact absurd hroot (h members)
  · rfl

lemma unpacks_flattened (f : Fault) : Unpacks f f.flattened := by
  obtain ⟨notes, hf⟩ := f.exists_under_root
  by_cases h : ∃ members, f.root = .aggregate members
  · obtain ⟨members, hroot⟩ := h
    rw [flattened_of_root hroot, hf, hroot]
    exact .members notes members
  · have hne : ∀ members, f.root ≠ .aggregate members := fun members hm => h ⟨members, hm⟩
    rw [flattened_of_root_ne hne]
    refine .whole fun notes' members hf' => hne members ?_
    rw [hf', root_under, root]
    simp

/-- A fault is told in one way only. -/
lemma Unpacks.eq_flattened {f : Fault} {members : List Fault} (h : f.Unpacks members) :
    members = f.flattened := by
  cases h with
  | members notes members => rw [flattened_of_root (root_under notes _)]
  | whole hne =>
    obtain ⟨notes, hf⟩ := f.exists_under_root
    refine (flattened_of_root_ne fun members hroot => ?_).symm
    rw [hroot] at hf
    exact hne notes members hf

/-- Nothing is taken over only from an aggregate without members. -/
lemma flattened_ne_nil {f : Fault} (h : f.root ≠ .aggregate []) : f.flattened ≠ [] := by
  intro hnil
  rw [flattened] at hnil
  split at hnil
  · next members hroot => exact h (hnil ▸ hroot)
  · simp at hnil

/-- Faults that are told together are taken over one by one. -/
lemma flatMap_flattened_ofList? (fs : List Fault) :
    ((Aggregate.ofList? fs).map Aggregate.toFault).toList.flatMap flattened = fs := by
  by_cases h : fs = []
  · subst h
    rfl
  · rw [Aggregate.ofList?, dif_neg h, Option.map_some, Option.toList_some, List.flatMap_singleton]
    rfl

end DeviceFleet.Fault
