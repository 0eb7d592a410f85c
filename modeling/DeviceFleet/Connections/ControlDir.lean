/-
# The control directory

Connection agents leave one file per connected instance in a subdirectory of the control
directory.  Loading reads every file whose name ends in `.json`: a file that cannot be read, or an
entry that the listing fails to tell, is reported and takes no other file with it.  No such
subdirectory means that nothing is connected.
-/
import DeviceFleet.Connections.Statuses
import DeviceFleet.FileSystem
import DeviceFleet.Path

namespace DeviceFleet.ControlDir

/-- Where the files are, below a control directory. -/
def directory (controlDir : String) : String := Path.join controlDir "connections"

/-- Whether a file of that name records a connection. -/
def isRecordName (name : String) : Bool := Path.hasExtension name "json"

/-- Reads the file of one connection. -/
def readRecord (fs : FileSystem) (path : String) : Except Fault ConnectionRecord :=
  match fs.text path with
  | .error cause => .error ((Fault.io cause).note s!"reading connection file {path}")
  | .ok content =>
    match ConnectionRecord.reader.decode content.toList with
    | .error error => .error ((Fault.json error).note s!"parsing connection file {path}")
    | .ok record => .ok record

/-- What the files read so far hold. -/
structure Scan where
  /-- The connections in scope. -/
  statuses : Statuses := {}
  /-- The faults, latest first. -/
  faults : List Fault := []

/-- The scan with one more fault. -/
def Scan.addFault (scan : Scan) (fault : Fault) : Scan :=
  { scan with faults := fault :: scan.faults }

/-- Takes in one more entry of the directory. -/
def Scan.add (fs : FileSystem) (scope : Scope) (dir : String) (scan : Scan) :
    DirectoryEntry → Scan
  | .error cause => scan.addFault ((Fault.io cause).note s!"listing {dir}")
  | .ok name =>
    if isRecordName name then
      match readRecord fs (Path.join dir name) with
      | .error fault => scan.addFault fault
      | .ok record =>
        if scope.includes record.identity.host then
          { scan with statuses := scan.statuses.insert record.identity record.status }
        else scan
    else scan

/-- Loads the connections of a control directory. -/
def load (fs : FileSystem) (controlDir : String) (scope : Scope) : Loaded :=
  let dir := directory controlDir
  match fs.entries dir with
  | .error cause =>
    if cause = .notFound then {}
    else { fault := some ((Fault.io cause).note s!"reading connections dir {dir}") }
  | .ok entries =>
    let scan := entries.foldl (Scan.add fs scope dir) {}
    { statuses := scan.statuses
      fault := (Aggregate.ofList? scan.faults.reverse).map Aggregate.toFault }

end DeviceFleet.ControlDir
