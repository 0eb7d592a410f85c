/-
# Staging a local build

The files to upload for a local build: the required images in the order of their list, then the
host package.  Nothing is staged unless the list can be read and the package is fresh.
-/
import DeviceFleet.Fault
import DeviceFleet.LocalBuild.BuildEnvironment
import DeviceFleet.LocalBuild.HostPackage
import DeviceFleet.LocalBuild.Manifest

namespace DeviceFleet.Staging

/-- The images that the list of a build tree requires. -/
def requiredImages (fs : FileSystem) (env : BuildEnvironment) : Except BuildFault (List String) :=
  let path := Path.join env.buildTop Manifest.location
  match fs.text path with
  | .error cause => .error (.manifestUnreadable path cause)
  | .ok content => .ok (Manifest.imagePaths content env.productOut)

/-- The files to upload for a build tree. -/
def stage (fs : FileSystem) (env : BuildEnvironment) : Except BuildFault (List String) :=
  match requiredImages fs env with
  | .error fault => .error fault
  | .ok images =>
    match HostPackage.verify fs env.hostOut with
    | .error fault => .error fault
    | .ok () => .ok (images ++ [HostPackage.archive env.hostOut])

/-- The build environment to stage: a given one, or that of the process. -/
def environment (given : Option BuildEnvironment) (process : Environment) :
    Except Fault BuildEnvironment :=
  match given with
  | some env => .ok env
  | none =>
    match BuildEnvironment.resolve process with
    | .ok env => .ok env
    | .error fault =>
      .error ((Fault.build fault).note "cannot retrieve Android build environment variables")

/-- The files to upload for a given build tree, or for that of the process. -/
def requiredFiles (fs : FileSystem) (given : Option BuildEnvironment) (process : Environment) :
    Except Fault (List String) :=
  match environment given process with
  | .error fault => .error fault
  | .ok env =>
    match stage fs env with
    | .error fault => .error (.build fault)
    | .ok files => .ok files

end DeviceFleet.Staging
