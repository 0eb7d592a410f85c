/-
# Paths

Paths are texts; nothing normalises them.
-/

namespace DeviceFleet.Path

/-- Whether the path starts at the root. -/
def isAbsolute (p : String) : Bool := p.toList.head? == some '/'

/-- The path that `p` names inside `dir`: an absolute `p` stands for itself, and a slash is put in
between unless `dir` is empty or ends in one. -/
def join (dir p : String) : String :=
  if isAbsolute p then p
  else if dir.isEmpty || dir.toList.getLast? == some '/' then dir ++ p
  else dir ++ "/" ++ p

/-- Whether a file name consists of a stem that is not empty and the given extension. -/
def hasExtension (name extension : String) : Bool :=
  let ending := '.' :: extension.toList
  let stem := name.toList.take (name.toList.length - ending.length)
  !stem.isEmpty && name.toList == stem ++ ending

end DeviceFleet.Path
