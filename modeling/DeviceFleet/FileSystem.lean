/-
# File systems

A file system is known by what it answers: the bytes of a file, the time of the last change, and
the entries of a directory, in whatever order it lists them.  A listing may fail at an entry and
still tell others.  Links are followed.
-/
import DeviceFleet.Instant
import DeviceFleet.IoFault

namespace DeviceFleet

/-- An entry of a directory: its name, or why the listing fails to tell it. -/
abbrev DirectoryEntry : Type := Except IoFault String

/-- The answers of a file system at one moment. -/
structure FileSystem where
  /-- The bytes of a file. -/
  bytes : String → Except IoFault ByteArray
  /-- When a file or directory was last changed. -/
  modified : String → Except IoFault Instant
  /-- The entries of a directory. -/
  entries : String → Except IoFault (List DirectoryEntry)

namespace FileSystem

/-- The text of a file. -/
def text (fs : FileSystem) (path : String) : Except IoFault String :=
  match fs.bytes path with
  | .error e => .error e
  | .ok bytes =>
    match String.fromUTF8? bytes with
    | some s => .ok s
    | none => .error .notText

theorem text_of_bytes {fs : FileSystem} {path s : String} (h : fs.bytes path = .ok s.toUTF8) :
    fs.text path = .ok s := by
  rw [text, h]
  dsimp only
  rw [String.fromUTF8?, dif_pos]
  rfl

/-- Whether a path leads to something. -/
def isPresent (fs : FileSystem) (path : String) : Bool :=
  match fs.modified path with
  | .ok _ => true
  | .error _ => false

end FileSystem

end DeviceFleet
