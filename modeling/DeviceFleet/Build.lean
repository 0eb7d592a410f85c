/-
# Builds

A build of the continuous integration is named by up to three coordinates.  A creation names a
main build and may replace single image slots by other builds.
-/
import DeviceFleet.Json.Record
import DeviceFleet.Json.Writer

namespace DeviceFleet

open Json

/-- The coordinates of a build; an empty one is not set. -/
structure Build where
  /-- The branch. -/
  branch : String := ""
  /-- The number of the build. -/
  buildId : String := ""
  /-- The target. -/
  target : String := ""
deriving DecidableEq, Repr

namespace Build

/-- Whether no coordinate is set. -/
def isEmpty (b : Build) : Bool := b.branch.isEmpty && b.buildId.isEmpty && b.target.isEmpty

/-- A written build, without the coordinates that are not set. -/
def write (b : Build) : List Char :=
  writeObject (Member.textUnlessEmpty "branch" b.branch ++
    Member.textUnlessEmpty "build_id" b.buildId ++ Member.textUnlessEmpty "target" b.target)

/-- A build of which some coordinates have been read. -/
structure Draft where
  /-- The branch. -/
  branch : Option String := none
  /-- The number of the build. -/
  buildId : Option String := none
  /-- The target. -/
  target : Option String := none

/-- How builds are read; every coordinate may be missing. -/
def schema : Schema Draft Build where
  title := "struct AndroidCiBuild"
  fields := [
    .of "branch" false textReader (·.branch) fun v d => { d with branch := some v },
    .of "build_id" false textReader (·.buildId) fun v d => { d with buildId := some v },
    .of "target" false textReader (·.target) fun v d => { d with target := some v }]
  blank := {}
  finish d := ⟨d.branch.getD "", d.buildId.getD "", d.target.getD ""⟩

/-- Reads a build. -/
def reader : Reader Build := schema.reader

end Build

/-- The builds of one creation. -/
structure Builds where
  /-- The build of every image that no other slot replaces. -/
  main : Build
  /-- The build of the kernel. -/
  kernel : Option Build := none
  /-- The build of the bootloader. -/
  bootloader : Option Build := none
  /-- The build of the system image. -/
  systemImage : Option Build := none
deriving DecidableEq, Repr

/-- The builds with an unset slot in place of each slot whose build has no coordinate: a request
never asks for an unnamed build. -/
def Builds.named (b : Builds) : Builds where
  main := b.main
  kernel := b.kernel.filter fun build => !build.isEmpty
  bootloader := b.bootloader.filter fun build => !build.isEmpty
  systemImage := b.systemImage.filter fun build => !build.isEmpty

end DeviceFleet
