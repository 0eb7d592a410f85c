/-
# Reports

What a listing has to tell: the instances it found, what went wrong, and the events it logged.
Reports are joined in the order in which hosts are listed.
-/
import DeviceFleet.Connections.Statuses
import DeviceFleet.Instance.Summary
import DeviceFleet.LogEvent

namespace DeviceFleet.Inventory

open Text

/-- What a part of a listing has to tell. -/
structure Report where
  /-- The instances found. -/
  instances : List Summary := []
  /-- What went wrong. -/
  faults : List Fault := []
  /-- The events logged. -/
  events : List LogEvent := []

namespace Report

/-- One report after another. -/
def append (a b : Report) : Report :=
  ⟨a.instances ++ b.instances, a.faults ++ b.faults, a.events ++ b.events⟩

instance : Append Report := ⟨append⟩

/-- Many reports in order. -/
def join (reports : List Report) : Report := reports.foldr append {}

theorem instances_append (a b : Report) : (a ++ b).instances = a.instances ++ b.instances := rfl

theorem faults_append (a b : Report) : (a ++ b).faults = a.faults ++ b.faults := rfl

theorem events_append (a b : Report) : (a ++ b).events = a.events ++ b.events := rfl

theorem empty_append (a : Report) : ({} : Report) ++ a = a := rfl

theorem append_empty (a : Report) : a ++ ({} : Report) = a := by
  show Report.mk (a.instances ++ []) (a.faults ++ []) (a.events ++ []) = a
  rw [List.append_nil, List.append_nil, List.append_nil]

theorem append_assoc (a b c : Report) : a ++ b ++ c = a ++ (b ++ c) := by
  show Report.mk (a.instances ++ b.instances ++ c.instances)
    (a.faults ++ b.faults ++ c.faults) (a.events ++ b.events ++ c.events) = _
  rw [List.append_assoc, List.append_assoc, List.append_assoc]
  rfl

/-- The reports of a list with one more at its end. -/
theorem join_concat (reports : List Report) (a : Report) :
    join (reports ++ [a]) = join reports ++ a := by
  induction reports with
  | nil => exact append_empty a
  | cons b bs ih =>
    show b ++ join (bs ++ [a]) = b ++ join bs ++ a
    rw [ih, append_assoc]

theorem instances_join (reports : List Report) :
    (join reports).instances = reports.flatMap (·.instances) := by
  induction reports with
  | nil => rfl
  | cons a as ih =>
    show a.instances ++ (join as).instances = _
    rw [ih, List.flatMap_cons]

theorem faults_join (reports : List Report) :
    (join reports).faults = reports.flatMap (·.faults) := by
  induction reports with
  | nil => rfl
  | cons a as ih =>
    show a.faults ++ (join as).faults = _
    rw [ih, List.flatMap_cons]

/-- The report of an event and nothing else. -/
def ofEvent (event : LogEvent) : Report := { events := [event] }

end Report

/-- How the listing of one host ends. -/
inductive HostAnswer where
  /-- The host listed its instances. -/
  | listed (records : List RemoteRecord)
  /-- The host could not be listed. -/
  | failed (fault : Fault)
  /-- The listing broke off in the task with this number, with a text if it left one. -/
  | crashed (task : Nat) (payload : Option String)

/-- What was being done when the listing of a host failed. -/
def hostNote (host : String) : String := s!"list cvds on host {quoted host}"

/-- What is told of a task that broke off. -/
def crashText (task : Nat) : Option String → String
  | none => s!"task {task} panicked"
  | some payload => s!"task {task} panicked with message {quoted payload}"

/-- A record as a summary, with the connection that is recorded for the instance. -/
def summarize (endpoint host : String) (statuses : Statuses) (r : RemoteRecord) : Summary :=
  let summary := Summary.ofRemote endpoint host r
  { summary with connection := statuses.find? summary.identity }

/-- What the listing of one host has to tell. -/
def reportHost (endpoint : String) (statuses : Statuses) (host : String) :
    HostAnswer → Report
  | .listed records => { instances := records.map (summarize endpoint host statuses) }
  | .failed fault =>
    let noted := fault.note (hostNote host)
    { faults := [noted]
      events := [⟨.warn, "listing cvds failed",
        [("host", .text host), ("error", .text noted.rendering)]⟩] }
  | .crashed task payload =>
    { faults := [.message s!"{hostNote host}: {crashText task payload}"]
      events := [⟨.warn, "listing task did not complete",
        [("host", .text host), ("error", .text (crashText task payload))]⟩] }

/-- What a load of connections has to tell; `about` are the details that come before the fault in
the event. -/
def reportLoad (about : List (String × LogValue)) : Option Fault → Report
  | none => {}
  | some fault =>
    { faults := fault.flattened
      events := [⟨.warn, "cannot load connection statuses",
        about ++ [("error", .text fault.rendering)]⟩] }

end DeviceFleet.Inventory
