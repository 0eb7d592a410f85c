/-
# Faults of a local build

What keeps the images of a local build tree from being staged.
-/
import DeviceFleet.IoFault
import DeviceFleet.Text.Quoted

namespace DeviceFleet

/-- Why a local build cannot be staged. -/
inductive BuildFault where
  /-- A variable of the build environment is not set. -/
  | missingVariable (name : String)
  /-- The list of required images cannot be read. -/
  | manifestUnreadable (path : String) (cause : IoFault)
  /-- There is no packed host package. -/
  | packageMissing (path : String)
  /-- The packed host package cannot be inspected. -/
  | packageUnreadable (path : String) (cause : IoFault)
  /-- The directory of the host package cannot be inspected. -/
  | packageDirUnreadable (path : String) (cause : IoFault)
  /-- The packed host package is older than its directory. -/
  | packageStale (path : String)
deriving DecidableEq, Repr

namespace BuildFault

/-- The text of a fault. -/
def message : BuildFault → String
  | .missingVariable name => s!"Missing environment variable: {Text.quoted name}"
  | .manifestUnreadable path cause =>
    s!"cannot read the required images list file {path}: {cause.message}"
  | .packageMissing path => s!"{path} not found. Please run `m hosttar`."
  | .packageUnreadable path cause =>
    s!"cannot get cvd host package info for {path}: {cause.message}"
  | .packageDirUnreadable path cause =>
    s!"cannot get cvd host package directory info for {path}: {cause.message}"
  | .packageStale path => s!"{path} out of date. Please run `m hosttar`."

/-- The failed file operation behind a fault. -/
def source : BuildFault → Option IoFault
  | .manifestUnreadable _ cause => some cause
  | .packageUnreadable _ cause => some cause
  | .packageDirUnreadable _ cause => some cause
  | .missingVariable _ | .packageMissing _ | .packageStale _ => none

end BuildFault

end DeviceFleet
