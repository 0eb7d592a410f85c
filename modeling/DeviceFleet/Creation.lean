/-
# Creating instances

A creation is one script of calls, cut after the first that fails.  For a local build the files to
upload are collected, an upload area is made on the host, the files are uploaded and the host is
asked to create; for builds of the continuous integration the host is asked to fetch the main
build and then to create.  Whatever fails is noted on the fault, and the notes it had are kept.
-/
import DeviceFleet.Fault
import DeviceFleet.Instance.Summary
import DeviceFleet.LogEvent
import DeviceFleet.Request

namespace DeviceFleet.Creation

open Text

/-- A call that a creation makes. -/
inductive Call where
  /-- Collect the files to upload. -/
  | requiredFiles
  /-- Make an upload area on a host. -/
  | createUpload (host : String)
  /-- Upload files into an area. -/
  | uploadFiles (host area : String) (files : List String)
  /-- Have a host fetch the artifacts of a build. -/
  | fetchArtifacts (host : String) (request : FetchRequest)
  /-- Have a host create instances. -/
  | createInstances (host : String) (request : CreationRequest)
deriving DecidableEq, Repr

/-- What a call that succeeds answers. -/
abbrev Call.Answer : Call → Type
  | .requiredFiles => List String
  | .createUpload _ => String
  | .uploadFiles .. => Unit
  | .fetchArtifacts .. => Unit
  | .createInstances .. => List RemoteRecord

/-- How calls are answered, which may depend on all calls made before. -/
abbrev Answers : Type := (earlier : List Call) → (call : Call) → Except Fault call.Answer

/-- What a creation has done so far. -/
structure Journal where
  /-- The calls made. -/
  calls : List Call := []
  /-- The events logged. -/
  events : List LogEvent := []

/-- A part of a creation: it goes on with a value, or fails. -/
abbrev Script (α : Type) : Type := ExceptT Fault (StateM Journal) α

/-- Makes a call; the note says what was being done if it fails. -/
def ask (answers : Answers) (call : Call) (note : String) : Script call.Answer := do
  let journal ← get
  set { journal with calls := journal.calls ++ [call] }
  match answers journal.calls call with
  | .ok answer => return answer
  | .error fault => throw (fault.note note)

/-- Logs an event. -/
def log (event : LogEvent) : Script Unit :=
  modify fun journal => { journal with events := journal.events ++ [event] }

/-- The last call of every creation. -/
def create (answers : Answers) (host : String) (request : CreationRequest) :
    Script (List RemoteRecord) :=
  ask answers (.createInstances host request) s!"create cvd on host {quoted host}"

/-- Creates from the local build tree. -/
def fromLocalBuild (answers : Answers) (o : CreateOptions) : Script (List RemoteRecord) := do
  let files ← ask answers .requiredFiles "cannot stage local image files"
  let area ← ask answers (.createUpload o.host) s!"create upload area on host {quoted o.host}"
  log ⟨.debug, "uploading local image files",
    [("host", .text o.host), ("upload_dir", .text area), ("files", .count files.length)]⟩
  ask answers (.uploadFiles o.host area files)
    s!"upload files to {quoted area} on host {quoted o.host}"
  log ⟨.info, "creating cvd from local image",
    [("host", .text o.host), ("additional", .count o.additional.toNat)]⟩
  create answers o.host (o.requestForUpload area)

/-- Creates from builds of the continuous integration. -/
def fromBuilds (answers : Answers) (o : CreateOptions) (builds : Builds) :
    Script (List RemoteRecord) := do
  ask answers (.fetchArtifacts o.host ⟨builds.main⟩) s!"fetch artifacts on host {quoted o.host}"
  log ⟨.info, "creating cvd from android ci",
    [("host", .text o.host), ("build_id", .text builds.main.buildId),
      ("target", .text builds.main.target), ("additional", .count o.additional.toNat)]⟩
  create answers o.host (o.requestForBuilds builds)

/-- The script of a creation. -/
def script (answers : Answers) (o : CreateOptions) : Script (List RemoteRecord) :=
  match o.source with
  | .localBuild => fromLocalBuild answers o
  | .ci builds => fromBuilds answers o builds

/-- A finished creation. -/
structure Outcome where
  /-- The instances created, or why there are none. -/
  result : Except Fault (List Summary)
  /-- The calls made. -/
  calls : List Call
  /-- The events logged. -/
  events : List LogEvent

/-- Creates instances by way of the service with the given root. -/
def run (endpoint : String) (answers : Answers) (o : CreateOptions) : Outcome :=
  let (created, journal) := (script answers o).run.run {}
  { result :=
      match created with
      | .ok records => .ok (records.map (Summary.ofRemote endpoint o.host))
      | .error fault => .error (fault.note "failed to create instance")
    calls := journal.calls
    events := journal.events }

end DeviceFleet.Creation
