/-
# Faults

A fault is a cause with notes around it, each saying what was being done; or several faults of
operations that do not depend on each other, told together.  Its chain is the text of each note,
outermost first, down to the cause.
-/
import DeviceFleet.BuildFault
import DeviceFleet.Json.Failure

namespace DeviceFleet

/-- What went wrong. -/
inductive Fault where
  /-- A cause known by its text only. -/
  | message (text : String)
  /-- A failed file operation. -/
  | io (cause : IoFault)
  /-- A refused JSON text. -/
  | json (error : Json.ReadError)
  /-- A refused YAML text, with what the reader says of it. -/
  | yaml (refusal : String)
  /-- A local build that cannot be staged. -/
  | build (cause : BuildFault)
  /-- Several faults, told together. -/
  | aggregate (members : List Fault)
  /-- A fault with a note on what was being done. -/
  | context (note : String) (cause : Fault)
deriving Repr

/-- The texts with a separator between each two. -/
def joined (separator : String) (texts : List String) : String := separator.intercalate texts

/-- The head line of an aggregate of so many faults. -/
def aggregateHeader (count : Nat) : String :=
  if count = 1 then "1 error occurred:" else s!"{count} errors occurred:"

/-- What stands before each member of an aggregate. -/
def memberMark : String := "\n\t* "

/-- The text of an aggregate whose members have the given texts. -/
def aggregateText (texts : List String) : String :=
  aggregateHeader texts.length ++ String.join (texts.map (memberMark ++ ·))

namespace Fault

mutual

/-- The texts of a fault, the outermost note first and the root cause last. -/
def chain : Fault → List String
  | .message text => [text]
  | .io cause => [cause.message]
  | .json error => [error.message]
  | .yaml refusal => [refusal]
  | .build cause => cause.message :: (cause.source.map IoFault.message).toList
  | .aggregate members => [aggregateText (renderings members)]
  | .context note cause => note :: cause.chain

/-- The chains of several faults, each in one text. -/
def renderings : List Fault → List String
  | [] => []
  | f :: fs => joined ": " f.chain :: renderings fs

end

/-- The whole chain in one text. -/
def rendering (f : Fault) : String := joined ": " f.chain

theorem renderings_eq_map (fs : List Fault) : renderings fs = fs.map rendering := by
  induction fs with
  | nil => simp [renderings]
  | cons f fs ih => simp [renderings, rendering, ih]

/-- The fault with a further note around it. -/
def note (f : Fault) (text : String) : Fault := .context text f

/-- The fault without its notes. -/
def root : Fault → Fault
  | .context _ cause => cause.root
  | f => f

/-- The faults that a report takes over from `f`: the members of an aggregate, without the notes
around it, and any other fault as it is. -/
def flattened (f : Fault) : List Fault :=
  match f.root with
  | .aggregate members => members
  | _ => [f]

end Fault

/-- One or more faults, told together. -/
structure Aggregate where
  /-- The faults in order. -/
  members : List Fault
  /-- There is at least one. -/
  nonempty : members ≠ []

namespace Aggregate

/-- The aggregate of a list of faults, if there are any. -/
def ofList? (faults : List Fault) : Option Aggregate :=
  if h : faults = [] then none else some ⟨faults, h⟩

/-- The aggregate as a fault. -/
def toFault (a : Aggregate) : Fault := .aggregate a.members

/-- The text of the aggregate: a head line, then its members, each with its whole chain. -/
def text (a : Aggregate) : String := aggregateText (a.members.map Fault.rendering)

end Aggregate

/-- Adds a note to the fault of a failed step. -/
def Except.withNote {α : Type} (text : String) : Except Fault α → Except Fault α
  | .ok a => .ok a
  | .error f => .error (f.note text)

end DeviceFleet
