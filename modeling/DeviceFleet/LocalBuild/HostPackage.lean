/-
# The host package

The tools that a host needs are packed from a directory.  A package older than its directory is
stale and is not uploaded.
-/
import DeviceFleet.BuildFault
import DeviceFleet.FileSystem
import DeviceFleet.Path

namespace DeviceFleet.HostPackage

/-- The packed tools. -/
def archive (hostOut : String) : String := Path.join hostOut "cvd-host_package.tar.gz"

/-- The directory that they are packed from. -/
def directory (hostOut : String) : String := Path.join hostOut "cvd-host_package"

/-- Refuses a package older than its directory. -/
def checkFresh (archive : String) (packed changed : Instant) : Except BuildFault Unit :=
  if packed.isBefore changed then .error (.packageStale archive) else .ok ()

/-- Refuses a package that is missing, that cannot be compared with its directory, or that is
stale. -/
def verify (fs : FileSystem) (hostOut : String) : Except BuildFault Unit :=
  match fs.modified (archive hostOut) with
  | .error cause =>
    if cause = .notFound then .error (.packageMissing (archive hostOut))
    else .error (.packageUnreadable (archive hostOut) cause)
  | .ok packed =>
    match fs.modified (directory hostOut) with
    | .error cause => .error (.packageDirUnreadable (directory hostOut) cause)
    | .ok changed => checkFresh (archive hostOut) packed changed

end DeviceFleet.HostPackage
