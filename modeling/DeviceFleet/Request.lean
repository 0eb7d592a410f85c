/-
# Requests to a host

The two requests that a creation sends: to fetch the artifacts of a build ahead of time, and to
create instances from images that were uploaded or come from builds.
-/
import DeviceFleet.Build

namespace DeviceFleet

open Json

/-- Where the images of new instances come from. -/
inductive ImageSource where
  /-- The local build tree, whose images are uploaded. -/
  | localBuild
  /-- Builds of the continuous integration, which the host fetches. -/
  | ci (builds : Builds)
deriving DecidableEq, Repr

/-- What a caller asks for. -/
structure CreateOptions where
  /-- The host to create on. -/
  host : String
  /-- Where the images come from. -/
  source : ImageSource
  /-- How many instances to create; none means one. -/
  count : UInt32
deriving DecidableEq, Repr

namespace CreateOptions

/-- The instances beyond the first. -/
def additional (o : CreateOptions) : UInt32 := if o.count = 0 then 0 else o.count - 1

/-- Whether the images come from the local build tree. -/
def usesLocalImage (o : CreateOptions) : Bool := o.source == .localBuild

theorem toNat_additional (o : CreateOptions) :
    o.additional.toNat + 1 = max o.count.toNat 1 := by
  unfold additional
  split
  · next h => simp [h]
  · next h =>
    have h0 : o.count.toNat ≠ 0 := fun h' => h (UInt32.toNat_inj.mp h')
    have h1 : (1 : UInt32) ≤ o.count := by
      rw [UInt32.le_iff_toNat_le]
      exact Nat.one_le_iff_ne_zero.mpr h0
    rw [UInt32.toNat_sub_of_le _ _ h1]
    have : (1 : UInt32).toNat = 1 := rfl
    omega

end CreateOptions

/-- Where a host takes the images from. -/
inductive BuildSource where
  /-- An upload area on the host. -/
  | uploaded (area : String)
  /-- Builds that the host has fetched or will fetch. -/
  | ci (builds : Builds)
deriving DecidableEq, Repr

/-- The request to create instances. -/
structure CreationRequest where
  /-- Where the images come from. -/
  source : BuildSource
  /-- The instances beyond the first. -/
  additional : UInt32
deriving DecidableEq, Repr

/-- The request to fetch the main bundle of a build. -/
structure FetchRequest where
  /-- The build. -/
  build : Build
deriving DecidableEq, Repr

/-- A member for a slot, if a build is given for it. -/
def slotMember (key : String) (slot : Option Build) : List Member :=
  (slot.map fun build => ⟨key, build.write⟩).toList

/-- Written builds, without the slots that are not set. -/
def Builds.write (b : Builds) : List Char :=
  writeObject (⟨"main_build", b.main.write⟩ :: slotMember "kernel_build" b.kernel ++
    slotMember "bootloader_build" b.bootloader ++
    slotMember "system_image_build" b.systemImage)

/-- A written source. -/
def BuildSource.write : BuildSource → List Char
  | .uploaded area =>
    writeObject [⟨"user_build_source", writeObject [.text "artifacts_dir" area]⟩]
  | .ci builds => writeObject [⟨"android_ci_build_source", builds.write⟩]

/-- A written request to create instances. -/
def CreationRequest.write (r : CreationRequest) : List Char :=
  writeObject [⟨"cvd", writeObject [⟨"build_source", r.source.write⟩]⟩,
    ⟨"additional_instances_num", writeNat r.additional.toNat⟩]

/-- A written request to fetch a bundle. -/
def FetchRequest.write (r : FetchRequest) : List Char :=
  writeObject [⟨"android_ci_bundle",
    writeObject [⟨"build", r.build.write⟩, .text "type" "main"]⟩]

/-- The request for images in an upload area. -/
def CreateOptions.requestForUpload (o : CreateOptions) (area : String) : CreationRequest :=
  ⟨.uploaded area, o.additional⟩

/-- The request for images of builds. -/
def CreateOptions.requestForBuilds (o : CreateOptions) (builds : Builds) : CreationRequest :=
  ⟨.ci builds.named, o.additional⟩

end DeviceFleet
