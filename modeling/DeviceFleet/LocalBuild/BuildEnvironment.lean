/-
# The build environment

Where a local build tree lies, as the variables of a shell with a chosen target say.
-/
import DeviceFleet.BuildFault
import DeviceFleet.Environment

namespace DeviceFleet

/-- The directories of a local build tree. -/
structure BuildEnvironment where
  /-- The top of the source tree. -/
  buildTop : String
  /-- Where the images of the target are. -/
  productOut : String
  /-- Where the host tools are. -/
  hostOut : String
deriving DecidableEq, Repr

namespace BuildEnvironment

/-- The variables that are looked up, in this order. -/
def names : List String := ["ANDROID_BUILD_TOP", "ANDROID_PRODUCT_OUT", "ANDROID_HOST_OUT"]

/-- The value of a variable that has to be set. -/
def required (env : Environment) (name : String) : Except BuildFault String :=
  match env name with
  | some value => .ok value
  | none => .error (.missingVariable name)

/-- The build environment of a process; the first variable that is not set is the fault. -/
def resolve (env : Environment) : Except BuildFault BuildEnvironment := do
  let buildTop ← required env "ANDROID_BUILD_TOP"
  let productOut ← required env "ANDROID_PRODUCT_OUT"
  let hostOut ← required env "ANDROID_HOST_OUT"
  return ⟨buildTop, productOut, hostOut⟩

end BuildEnvironment

end DeviceFleet
