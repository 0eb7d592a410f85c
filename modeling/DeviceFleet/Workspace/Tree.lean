/-
# Trees of files

Files, directories and links by location, and how a path leads to one of them.  A location is the
names from the root down.  Links are followed, at most forty on the way, and a slash at the end of
a path asks for a directory.  Times of change are kept apart from what is there: a location has the
time that was last set for it, even if it was set before anything was made there.
-/
import DeviceFleet.FileSystem
import DeviceFleet.Path

namespace DeviceFleet.Workspace

/-- The names from the root down. -/
abbrev Location : Type := List String

/-- What is at a location. -/
inductive Node where
  /-- A file with its bytes. -/
  | file (bytes : ByteArray)
  /-- A directory. -/
  | directory
  /-- A link to the given path. -/
  | link (target : String)

/-- The time of the last change where none was set. -/
def defaultTime : Instant := ⟨1000000000, 0⟩

/-- The location of the working directory. -/
def home : Location := ["workspace"]

/-- A tree of files. -/
structure Tree where
  /-- What is at each location, except the root. -/
  nodes : List (Location × Node) := [(home, .directory)]
  /-- The times that were set, by location. -/
  times : List (Location × Instant) := []

/-- How many links may lie on the way of a path. -/
def linkLimit : Nat := 40

/-- The greatest number of bytes of a name. -/
def nameLimit : Nat := 255

/-- The number of bytes that no path may reach. -/
def pathLimit : Nat := 4096

/-- The names of a path in order; a slash at the end counts as a step in place. -/
def steps (path : String) : List String :=
  let names := ((path.toList.splitOn '/').filter (!·.isEmpty)).map String.ofList
  if path.toList.getLast? == some '/' then names ++ ["."] else names

/-- Refuses the paths that no system call takes: empty ones, long ones, and those with a NUL
character. -/
def checkPath (path : String) : Except IoFault Unit :=
  if path.toList.contains '\x00' then .error .nulInPath
  else if path.isEmpty then .error .notFound
  else if path.utf8ByteSize ≥ pathLimit then .error .nameTooLong
  else .ok ()

namespace Tree

/-- What is at a location. -/
def node? (t : Tree) (l : Location) : Option Node :=
  if l = [] then some .directory else t.nodes.lookup l

/-- When what is at a location was last changed. -/
def modified (t : Tree) (l : Location) : Instant := (t.times.lookup l).getD defaultTime

/-- The names in the directory at a location, in the order of names. -/
def children (t : Tree) (l : Location) : List String :=
  (t.nodes.filterMap fun entry =>
    if entry.1.dropLast == l then entry.1.getLast? else none).mergeSort

/-- Follows names from a directory, with so many links at most. -/
def walk (t : Tree) (links : Nat) (here : Location) : List String → Except IoFault Location
  | [] => .ok here
  | name :: rest =>
    if name = "." then t.walk links here rest
    else if name = ".." then t.walk links here.dropLast rest
    else if name.utf8ByteSize > nameLimit then .error .nameTooLong
    else
      match t.node? (here ++ [name]) with
      | none => .error .notFound
      | some .directory => t.walk links (here ++ [name]) rest
      | some (.file _) => if rest.isEmpty then .ok (here ++ [name]) else .error .notDirectory
      | some (.link target) =>
        match links with
        | 0 => .error .tooManyLinks
        | left + 1 =>
          let start := if Path.isAbsolute target then [] else here
          t.walk left start (steps target ++ rest)
termination_by names => (links, names.length)

/-- Where a path leads from the working directory. -/
def locate (t : Tree) (path : String) : Except IoFault Location := do
  checkPath path
  t.walk linkLimit (if Path.isAbsolute path then [] else home) (steps path)

/-- What a path leads to. -/
def find (t : Tree) (path : String) : Except IoFault (Location × Node) :=
  match t.locate path with
  | .error e => .error e
  | .ok l =>
    match t.node? l with
    | some n => .ok (l, n)
    | none => .error .notFound

/-- The tree as a file system. -/
def fileSystem (t : Tree) : FileSystem where
  bytes path :=
    match t.find path with
    | .error e => .error e
    | .ok (_, .file bytes) => .ok bytes
    | .ok _ => .error .isDirectory
  modified path :=
    match t.find path with
    | .error e => .error e
    | .ok (l, _) => .ok (t.modified l)
  entries path :=
    match t.find path with
    | .error e => .error e
    | .ok (l, .directory) => .ok ((t.children l).map .ok)
    | .ok _ => .error .notDirectory

end Tree

end DeviceFleet.Workspace
