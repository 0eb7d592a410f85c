/-
# The configuration

The configuration names the control directory.  It is a YAML file, whose place the environment may
name; a file that is not there means that nothing is configured.  What is said of a text that is
refused as YAML is left open: `explain` says it of each text.
-/
import DeviceFleet.Connections.ControlDir
import DeviceFleet.Environment
import DeviceFleet.Json.Writer
import DeviceFleet.Yaml.Grammar

namespace DeviceFleet

open Json Yaml

/-- What is configured. -/
structure Configuration where
  /-- The control directory. -/
  controlDir : Option String := none
deriving DecidableEq, Repr

namespace Configuration

/-- The key of the control directory. -/
def controlDirKey : String := "control_dir"

/-- A written configuration. -/
def write (c : Configuration) : List Char :=
  writeObject (c.controlDir.map fun dir => Member.text controlDirKey dir).toList

/-! ## Reading -/

/-- The words for no value. -/
def isNullWord (text : List Char) : Bool :=
  ["null", "Null", "NULL", "~"].any fun word => word.toList == text

/-- The tag of no value. -/
def nullTag : List Char := "tag:yaml.org,2002:null".toList

/-- The text of a scalar. -/
def textOf : Node → Option String
  | .scalar _ _ _ text => some (String.ofList text)
  | _ => none

/-- The text of a scalar, or no value: a plain scalar that is empty or a word for no value. A tag of
another type makes a text of any plain scalar, and the tag of no value takes only those words. -/
def optionalText : Node → Option (Option String)
  | .scalar _ tag true text =>
    match tag with
    | none => some (if text.isEmpty || isNullWord text then none else some (String.ofList text))
    | some tag =>
      if tag == nullTag then if isNullWord text then some none else none
      else some (some (String.ofList text))
  | n => (textOf n).map some

/-- Reads the entries of the root; unknown keys are passed over, and the control directory may be
given once. -/
def readEntries (root : Node) (given : Option (Option String)) :
    List (Node × Node) → Option Configuration
  | [] => some ⟨given.join⟩
  | (key, value) :: r =>
    match (key.resolved root).bind textOf with
    | none => none
    | some name =>
      if name = controlDirKey then
        if given.isSome then none
        else
          match (value.resolved root).bind optionalText with
          | none => none
          | some dir => readEntries root (some dir) r
      else readEntries root given r

/-- The configuration in a document: a mapping, or nothing at all, which may have a tag or a
name. -/
def ofDocument : Option Node → Option Configuration
  | none => some {}
  | some (.mapping number entries) => readEntries (.mapping number entries) none entries
  | some (.scalar _ _ true []) => some {}
  | some _ => none

/-- Reads a configuration. -/
def read (explain : String → String) (text : String) : Except Fault Configuration :=
  match (parse text.toList).bind ofDocument with
  | some c => .ok c
  | none => .error (.yaml (explain text))

/-! ## Places -/

/-- The control directory below a directory for configurations. -/
def defaultControlDir (dir : String) : String := Path.join dir "cvdr"

/-- The directory for configurations: the one that the variables name by an absolute path, or the
usual one below the home directory. -/
def directory (s : Session) : Except Fault String :=
  match (s.environment "XDG_CONFIG_HOME").filter Path.isAbsolute with
  | some dir => .ok dir
  | none =>
    match s.home? with
    | some dir => .ok (Path.join dir ".config")
    | none => .error (.message "cannot determine config directory")

/-- Where the configuration is: at a given place, at the one that the variables name, or at the
usual one. -/
def location (s : Session) (given : Option String) : Except Fault String :=
  match given with
  | some path => .ok path
  | none =>
    match s.environment "CVDR_CONFIG" with
    | some path => .ok path
    | none =>
      match directory s with
      | .ok dir => .ok (Path.join (Path.join dir "cvdr") "config.yaml")
      | .error fault => .error fault

/-! ## Loading -/

/-- Reads the configuration in a file. -/
def readFile (fs : FileSystem) (explain : String → String) (path : String) :
    Except Fault Configuration :=
  match fs.text path with
  | .error cause => .error ((Fault.io cause).note s!"cannot read {path}")
  | .ok content => Except.withNote s!"cannot parse {path}" (read explain content)

/-- Loads the configuration; where nothing is found, nothing is configured. -/
def load (fs : FileSystem) (explain : String → String) (s : Session) (given : Option String) :
    Except Fault Configuration :=
  match location s given with
  | .error fault => .error fault
  | .ok path => if fs.isPresent path then readFile fs explain path else .ok {}

/-- The control directory: the configured one, or the usual one. -/
def controlDirOf (fs : FileSystem) (explain : String → String) (s : Session)
    (given : Option String) : Except Fault String :=
  match load fs explain s given with
  | .error fault => .error fault
  | .ok c =>
    match c.controlDir with
    | some dir => .ok dir
    | none => (directory s).map defaultControlDir

/-- Loads the connections of the configured control directory. -/
def connections (fs : FileSystem) (explain : String → String) (s : Session)
    (given : Option String) (scope : Scope) : Except Fault Loaded :=
  (controlDirOf fs explain s given).map fun dir => ControlDir.load fs dir scope

end Configuration

end DeviceFleet
