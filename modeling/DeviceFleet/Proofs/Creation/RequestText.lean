/-
# What the text of a request tells

Written requests are read back by looking up their members, so that requests with one text are the
same request (`CreationRequest.write_injective`).  The request of a creation leaves out the slots
whose build has no coordinate; therefore its text tells the options up to such slots, the area of an
upload, and how many instances are made.  The main statement is `write_finalRequest`.
-/
import DeviceFleet.Proofs.Creation.Protocol
import DeviceFleet.Proofs.Instance.Written
import DeviceFleet.Proofs.Json.Lookup

namespace DeviceFleet

open Json

variable {key : String} {m : Member}

/-! ## Builds -/

namespace Build

lemma mem_textUnlessEmpty {value : String} :
    m ∈ Member.textUnlessEmpty key value ↔ value ≠ "" ∧ m = .text key value := by
  rw [Member.textUnlessEmpty]
  split <;> simp_all [String.isEmpty_iff]

lemma keys_textUnlessEmpty (key value : String) :
    ((Member.textUnlessEmpty key value).map Member.key).Sublist [key] := by
  rw [Member.textUnlessEmpty]
  split
  · exact List.nil_sublist _
  · exact List.Sublist.refl _

/-- The members of a written build. -/
def members (b : Build) : List Member :=
  Member.textUnlessEmpty "branch" b.branch ++ Member.textUnlessEmpty "build_id" b.buildId ++
    Member.textUnlessEmpty "target" b.target

/-- A member of a written build holds one of the coordinates. -/
lemma exists_of_mem_members {b : Build} (hm : m ∈ b.members) :
    ∃ key ∈ ["branch", "build_id", "target"], ∃ value, m = .text key value := by
  simp only [members, List.mem_append, mem_textUnlessEmpty] at hm
  rcases hm with (⟨-, rfl⟩ | ⟨-, rfl⟩) | ⟨-, rfl⟩
  · exact ⟨"branch", by simp, _, rfl⟩
  · exact ⟨"build_id", by simp, _, rfl⟩
  · exact ⟨"target", by simp, _, rfl⟩

lemma wellFormed_members (b : Build) : WellFormed b.members := by
  constructor
  · intro m hm
    obtain ⟨key, -, value, rfl⟩ := exists_of_mem_members hm
    exact isValue_writeString value
  · rw [members, List.map_append, List.map_append]
    have hkeys := ((keys_textUnlessEmpty "branch" b.branch).append
      (keys_textUnlessEmpty "build_id" b.buildId)).append (keys_textUnlessEmpty "target" b.target)
    exact hkeys.nodup (by decide)

lemma isValue_write (b : Build) : IsValue b.write := isValue_writeObject b.wellFormed_members.values

lemma write_injective : Function.Injective write := by
  intro a b h
  have hb := b.reads_write
  rw [← h] at hb
  exact a.reads_write.unique hb

/-- A written build mentions nothing but its coordinates. -/
lemma not_mentions_write (b : Build) (hkey : key ∉ ["branch", "build_id", "target"]) :
    ¬ Mentions key b.write := by
  intro hmentions
  obtain ⟨m, hm, h⟩ := (mentions_writeObject b.wellFormed_members).mp hmentions
  obtain ⟨coordinate, hcoordinate, value, rfl⟩ := exists_of_mem_members hm
  rcases h with rfl | h
  · exact hkey hcoordinate
  · exact not_mentions (fun inner => member?_writeString inner value) h

lemma isEmpty_iff {b : Build} : b.isEmpty = true ↔ b = ⟨"", "", ""⟩ := by
  obtain ⟨branch, buildId, target⟩ := b
  simp [isEmpty, String.isEmpty_iff, and_assoc]

end Build

namespace Builds

/-- The slots that replace single images, each with its key. -/
def replacements (b : Builds) : List (String × Option Build) :=
  [("kernel_build", b.kernel), ("bootloader_build", b.bootloader),
    ("system_image_build", b.systemImage)]

/-- All slots, each with its key; the main one is always set. -/
def slots (b : Builds) : List (String × Option Build) :=
  ("main_build", some b.main) :: b.replacements

/-- The keys of the slots. -/
def slotKeys : List String :=
  ["main_build", "kernel_build", "bootloader_build", "system_image_build"]

lemma keys_slots (b : Builds) : b.slots.map Prod.fst = slotKeys := rfl

lemma mem_slotKeys {b : Builds} {slot : Option Build} (h : (key, slot) ∈ b.slots) :
    key ∈ slotKeys := by
  rw [← keys_slots b]
  exact List.mem_map_of_mem (f := Prod.fst) h

lemma nodup_keys_slots (b : Builds) : (b.slots.map Prod.fst).Nodup := by
  rw [keys_slots]
  decide

/-- A key has one slot. -/
lemma slot_unique {b : Builds} {s t : Option Build} (hs : (key, s) ∈ b.slots)
    (ht : (key, t) ∈ b.slots) : s = t :=
  (Prod.mk.inj (List.inj_on_of_nodup_map b.nodup_keys_slots hs ht rfl)).2

lemma replacements_named (b : Builds) : b.named.replacements =
    b.replacements.map fun entry => (entry.1, entry.2.filter fun build => !build.isEmpty) := rfl

/-- The members of written builds. -/
def members (b : Builds) : List Member :=
  b.slots.flatMap fun entry => slotMember entry.1 entry.2

lemma write_eq (b : Builds) : b.write = writeObject b.members := by
  simp [write, members, slots, replacements, slotMember]

lemma mem_slotMember {slot : Option Build} :
    m ∈ slotMember key slot ↔ ∃ build, slot = some build ∧ m = ⟨key, build.write⟩ := by
  cases slot <;> simp [slotMember]

lemma mem_members {b : Builds} :
    m ∈ b.members ↔ ∃ key build, (key, some build) ∈ b.slots ∧ m = ⟨key, build.write⟩ := by
  simp only [members, List.mem_flatMap, mem_slotMember, Prod.exists]
  constructor
  · rintro ⟨key, slot, hmem, build, rfl, rfl⟩
    exact ⟨key, build, hmem, rfl⟩
  · rintro ⟨key, build, hmem, rfl⟩
    exact ⟨key, some build, hmem, build, rfl, rfl⟩

lemma keys_members_sublist (entries : List (String × Option Build)) :
    ((entries.flatMap fun entry => slotMember entry.1 entry.2).map Member.key).Sublist
      (entries.map Prod.fst) := by
  induction entries with
  | nil => exact List.Sublist.refl _
  | cons entry entries ih =>
    obtain ⟨key, _ | build⟩ := entry
    · exact ih.cons key
    · exact ih.cons_cons key

lemma wellFormed_members (b : Builds) : WellFormed b.members := by
  constructor
  · intro m hm
    obtain ⟨key, build, -, rfl⟩ := mem_members.mp hm
    exact build.isValue_write
  · exact (keys_members_sublist b.slots).nodup b.nodup_keys_slots

lemma isValue_write (b : Builds) : IsValue b.write := by
  rw [write_eq]
  exact isValue_writeObject b.wellFormed_members.values

/-- At the key of a slot there is its build, if it is set. -/
lemma member?_slot (b : Builds) {slot : Option Build} (h : (key, slot) ∈ b.slots) :
    member? key b.write = slot.map Build.write := by
  rw [write_eq, member?_writeObject b.wellFormed_members]
  cases slot with
  | some build =>
    have hmem : ⟨key, build.write⟩ ∈ b.members := mem_members.mpr ⟨key, build, h, rfl⟩
    rw [b.wellFormed_members.find?_of_mem hmem]
    rfl
  | none =>
    have hnone : b.members.find? (fun m => m.key == key) = none := by
      refine List.find?_eq_none.mpr fun m hm hkey => ?_
      obtain ⟨other, build, hother, rfl⟩ := mem_members.mp hm
      obtain rfl : other = key := by simpa using hkey
      -- the key has one slot only, and this one is not set
      cases slot_unique hother h
    rw [hnone]
    rfl

lemma write_injective : Function.Injective write := by
  intro a b h
  have hslot : ∀ key s t, (key, s) ∈ a.slots → (key, t) ∈ b.slots → s = t := by
    intro key s t hs ht
    have hmember := congrArg (member? key) h
    rw [member?_slot a hs, member?_slot b ht] at hmember
    exact Option.map_injective Build.write_injective hmember
  obtain ⟨main, kernel, bootloader, systemImage⟩ := a
  obtain ⟨main', kernel', bootloader', systemImage'⟩ := b
  rw [Builds.mk.injEq, ← Option.some_inj]
  refine ⟨hslot "main_build" _ _ ?_ ?_, hslot "kernel_build" _ _ ?_ ?_,
    hslot "bootloader_build" _ _ ?_ ?_, hslot "system_image_build" _ _ ?_ ?_⟩
  all_goals simp [slots, replacements]

/-- The key of a slot is mentioned just if the slot is set. -/
lemma mentions_write_iff (b : Builds) (hkey : key ∈ slotKeys) :
    Mentions key b.write ↔ ∃ build, (key, some build) ∈ b.slots := by
  have hcoordinates : ∀ key ∈ slotKeys, key ∉ ["branch", "build_id", "target"] := by decide
  rw [write_eq, mentions_writeObject b.wellFormed_members]
  constructor
  · rintro ⟨m, hm, h⟩
    obtain ⟨other, build, hmem, rfl⟩ := mem_members.mp hm
    rcases h with rfl | h
    · exact ⟨build, hmem⟩
    · exact absurd h (build.not_mentions_write (hcoordinates key hkey))
  · rintro ⟨build, hmem⟩
    exact ⟨_, mem_members.mpr ⟨key, build, hmem, rfl⟩, .inl rfl⟩

end Builds

/-! ## Sources and requests -/

namespace BuildSource

lemma isValue_area (area : String) : IsValue (writeObject [.text "artifacts_dir" area]) :=
  isValue_writeObject (wellFormed_singleton (isValue_writeString area)).values

lemma isValue_write (s : BuildSource) : IsValue s.write := by
  cases s with
  | uploaded area => exact isValue_writeObject (wellFormed_singleton (isValue_area area)).values
  | ci builds => exact isValue_writeObject (wellFormed_singleton builds.isValue_write).values

lemma at?_area (area : String) :
    at? ["user_build_source", "artifacts_dir"] (uploaded area).write =
      some (writeString area) := by
  have houter : member? "user_build_source" (uploaded area).write =
      some (writeObject [.text "artifacts_dir" area]) :=
    member?_writeObject_singleton (isValue_area area) _
  have hinner : member? "artifacts_dir" (writeObject [.text "artifacts_dir" area]) =
      some (writeString area) :=
    member?_writeObject_singleton (isValue_writeString area) _
  simp only [at?, houter, hinner, Option.bind_some]

lemma member?_ci (builds : Builds) :
    member? "android_ci_build_source" (ci builds).write = some builds.write :=
  member?_writeObject_singleton builds.isValue_write _

lemma member?_ci_of_uploaded (area : String) :
    member? "android_ci_build_source" (uploaded area).write = none :=
  member?_writeObject_singleton (isValue_area area) _

lemma write_injective : Function.Injective write := by
  intro s t h
  cases s with
  | uploaded area =>
    cases t with
    | uploaded area' =>
      have harea := congrArg (at? ["user_build_source", "artifacts_dir"]) h
      rw [at?_area, at?_area] at harea
      rw [writeString_injective (Option.some.inj harea)]
    | ci builds =>
      have hmember := congrArg (member? "android_ci_build_source") h
      rw [member?_ci, member?_ci_of_uploaded] at hmember
      cases hmember
  | ci builds =>
    have hmember := congrArg (member? "android_ci_build_source") h
    rw [member?_ci] at hmember
    cases t with
    | uploaded area =>
      rw [member?_ci_of_uploaded] at hmember
      cases hmember
    | ci builds' =>
      rw [member?_ci] at hmember
      rw [Builds.write_injective (Option.some.inj hmember)]

/-- A source mentions the key of a slot just if it is builds of which this slot is set. -/
lemma mentions_write_iff (s : BuildSource) (hkey : key ∈ Builds.slotKeys) :
    Mentions key s.write ↔ ∃ builds build, s = .ci builds ∧ (key, some build) ∈ builds.slots := by
  have hfixed : ∀ key ∈ Builds.slotKeys,
      "user_build_source" ≠ key ∧ "artifacts_dir" ≠ key ∧ "android_ci_build_source" ≠ key := by
    decide
  obtain ⟨huser, hdir, hci⟩ := hfixed key hkey
  cases s with
  | uploaded area =>
    have hstring : ¬ Mentions key (writeString area) :=
      not_mentions fun inner => member?_writeString inner area
    have harea : ¬ Mentions key (writeObject [.text "artifacts_dir" area]) := by
      rw [mentions_writeObject_singleton (isValue_writeString area)]
      exact not_or.mpr ⟨hdir, hstring⟩
    rw [write, mentions_writeObject_singleton (isValue_area area)]
    simp [huser, harea]
  | ci builds =>
    rw [write, mentions_writeObject_singleton builds.isValue_write, builds.mentions_write_iff hkey]
    simp [hci]

end BuildSource

namespace CreationRequest

/-- The members of a written request. -/
def members (r : CreationRequest) : List Member :=
  [⟨"cvd", writeObject [⟨"build_source", r.source.write⟩]⟩,
    ⟨"additional_instances_num", writeNat r.additional.toNat⟩]

lemma wellFormed_source (r : CreationRequest) : WellFormed [⟨"build_source", r.source.write⟩] :=
  wellFormed_singleton r.source.isValue_write

lemma wellFormed_members (r : CreationRequest) : WellFormed r.members := by
  constructor
  · simp only [members, List.forall_mem_cons]
    exact ⟨isValue_writeObject r.wellFormed_source.values, isValue_writeNat _, by simp⟩
  · show ["cvd", "additional_instances_num"].Nodup
    decide

lemma member?_cvd (r : CreationRequest) :
    member? "cvd" r.write = some (writeObject [⟨"build_source", r.source.write⟩]) :=
  member?_writeObject r.wellFormed_members "cvd"

lemma member?_additional (r : CreationRequest) :
    member? "additional_instances_num" r.write = some (writeNat r.additional.toNat) :=
  member?_writeObject r.wellFormed_members "additional_instances_num"

lemma at?_source (r : CreationRequest) (path : List String) :
    at? ("cvd" :: "build_source" :: path) r.write = at? path r.source.write := by
  have hinner : member? "build_source" (writeObject [⟨"build_source", r.source.write⟩]) =
      some r.source.write := member?_writeObject r.wellFormed_source "build_source"
  simp only [at?, member?_cvd, hinner, Option.bind_some]

lemma write_injective : Function.Injective write := by
  intro r r' h
  have hsource := congrArg (at? ["cvd", "build_source"]) h
  rw [at?_source, at?_source] at hsource
  have hadditional := congrArg (member? "additional_instances_num") h
  rw [member?_additional, member?_additional] at hadditional
  have hs := BuildSource.write_injective (Option.some.inj hsource)
  have ha := UInt32.toNat_inj.mp (writeNat_injective (Option.some.inj hadditional))
  obtain ⟨_, _⟩ := r
  obtain ⟨_, _⟩ := r'
  rw [CreationRequest.mk.injEq]
  exact ⟨hs, ha⟩

/-- A request mentions the key of a slot just if its source does. -/
lemma mentions_write_iff (r : CreationRequest) (hkey : key ∈ Builds.slotKeys) :
    Mentions key r.write ↔
      ∃ builds build, r.source = .ci builds ∧ (key, some build) ∈ builds.slots := by
  have hfixed : ∀ key ∈ Builds.slotKeys,
      "cvd" ≠ key ∧ "build_source" ≠ key ∧ "additional_instances_num" ≠ key := by
    decide
  obtain ⟨hcvd, hsource, hadditional⟩ := hfixed key hkey
  have hnumber : ¬ Mentions key (writeNat r.additional.toNat) :=
    not_mentions fun inner => member?_writeNat inner _
  have hmentions : Mentions key r.write ↔ ∃ m ∈ r.members, m.key = key ∨ Mentions key m.value :=
    mentions_writeObject r.wellFormed_members
  rw [hmentions, ← r.source.mentions_write_iff hkey]
  simp [members, hcvd, hsource, hadditional, hnumber,
    mentions_writeObject r.wellFormed_source]

end CreationRequest

namespace FetchRequest

/-- The members of the bundle of a written request. -/
def members (r : FetchRequest) : List Member := [⟨"build", r.build.write⟩, .text "type" "main"]

lemma wellFormed_members (r : FetchRequest) : WellFormed r.members := by
  constructor
  · simp only [members, List.forall_mem_cons]
    exact ⟨r.build.isValue_write, isValue_writeString "main", by simp⟩
  · show ["build", "type"].Nodup
    decide

lemma at?_build (r : FetchRequest) :
    at? ["android_ci_bundle", "build"] r.write = some r.build.write := by
  have houter : member? "android_ci_bundle" r.write = some (writeObject r.members) :=
    member?_writeObject_singleton (isValue_writeObject r.wellFormed_members.values) _
  have hinner : member? "build" (writeObject r.members) = some r.build.write :=
    member?_writeObject r.wellFormed_members "build"
  simp only [at?, houter, hinner, Option.bind_some]

lemma write_injective : Function.Injective write := by
  intro r r' h
  have hbuild := congrArg (at? ["android_ci_bundle", "build"]) h
  rw [at?_build, at?_build] at hbuild
  obtain ⟨_⟩ := r
  obtain ⟨_⟩ := r'
  rw [FetchRequest.mk.injEq]
  exact Build.write_injective (Option.some.inj hbuild)

end FetchRequest

/-! ## The request of a creation -/

/-- The slot names no build: it is not set, or its build has no coordinate. -/
def Unnamed (slot : Option Build) : Prop := slot = none ∨ slot = some ⟨"", "", ""⟩

/-- The slots ask for the same build, if any. -/
def SameSlot (s t : Option Build) : Prop := s = t ∨ Unnamed s ∧ Unnamed t

lemma filter_of_unnamed {slot : Option Build} (h : Unnamed slot) :
    slot.filter (fun build => !build.isEmpty) = none := by
  rcases h with rfl | rfl <;> rfl

lemma filter_of_not_unnamed {slot : Option Build} (h : ¬ Unnamed slot) :
    slot.filter (fun build => !build.isEmpty) = slot := by
  cases slot with
  | none => rfl
  | some build =>
    have hset : build ≠ ⟨"", "", ""⟩ := by simpa [Unnamed] using h
    simp [Build.isEmpty_iff.not.mpr hset]

/-- What is left of two slots is the same just if they ask for the same. -/
lemma filter_eq_filter_iff {s t : Option Build} :
    s.filter (fun build => !build.isEmpty) = t.filter (fun build => !build.isEmpty) ↔
      SameSlot s t := by
  constructor
  · intro h
    by_cases hs : Unnamed s <;> by_cases ht : Unnamed t
    · exact .inr ⟨hs, ht⟩
    · rw [filter_of_unnamed hs, filter_of_not_unnamed ht] at h
      exact absurd (.inl h.symm) ht
    · rw [filter_of_not_unnamed hs, filter_of_unnamed ht] at h
      exact absurd (.inl h) hs
    · rw [filter_of_not_unnamed hs, filter_of_not_unnamed ht] at h
      exact .inl h
  · rintro (rfl | ⟨hs, ht⟩)
    · rfl
    · rw [filter_of_unnamed hs, filter_of_unnamed ht]

lemma filter_eq_some_iff {slot : Option Build} {build : Build} :
    slot.filter (fun build => !build.isEmpty) = some build ↔
      slot = some build ∧ build ≠ ⟨"", "", ""⟩ := by
  simp [Option.filter_eq_some_iff, ← Build.isEmpty_iff]

namespace Builds

/-- The builds ask for the same: the main build is the same, and so is every replacement. -/
structure Same (b b' : Builds) : Prop where
  /-- The main build. -/
  main : b.main = b'.main
  /-- The kernel. -/
  kernel : SameSlot b.kernel b'.kernel
  /-- The bootloader. -/
  bootloader : SameSlot b.bootloader b'.bootloader
  /-- The system image. -/
  systemImage : SameSlot b.systemImage b'.systemImage

lemma named_eq_named_iff {b b' : Builds} : b.named = b'.named ↔ b.Same b' := by
  simp only [named, Builds.mk.injEq, filter_eq_filter_iff]
  constructor
  · rintro ⟨hmain, hkernel, hbootloader, hsystem⟩
    exact ⟨hmain, hkernel, hbootloader, hsystem⟩
  · rintro ⟨hmain, hkernel, hbootloader, hsystem⟩
    exact ⟨hmain, hkernel, hbootloader, hsystem⟩

end Builds

namespace Creation

/-- Two creations take their images from the same place: from the areas that were made for them, if
both use the local build tree, and otherwise from the same builds. -/
def SameImages (area area' : String) : ImageSource → ImageSource → Prop
  | .localBuild, .localBuild => area = area'
  | .ci builds, .ci builds' => builds.Same builds'
  | _, _ => False

lemma createInstances_notMem_preparation (o : CreateOptions) (files : List String)
    (area host : String) (request : CreationRequest) :
    .createInstances host request ∉ (preparation o files area).map Attempt.call := by
  obtain ⟨_, source, _⟩ := o
  cases source <;> simp [preparation]

/-- A creation asks a host to create by its final request only. -/
lemma exists_finalRequest_of_mem_calls {endpoint host : String} {answers : Answers}
    {o : CreateOptions} {request : CreationRequest}
    (h : .createInstances host request ∈ (run endpoint answers o).calls) :
    host = o.host ∧ ∃ area, request = finalRequest o area := by
  obtain ⟨files, area, -, -, hperforms⟩ := exists_performs answers o
  obtain ⟨hcalls, -⟩ := run_of_performs endpoint hperforms
  rw [hcalls] at h
  obtain hprepared | hlast := List.mem_append.mp ((cut_isPrefix _ _ _).subset h)
  · exact absurd hprepared (createInstances_notMem_preparation o files area host request)
  · obtain ⟨rfl, rfl⟩ := Call.createInstances.inj (List.mem_singleton.mp hlast)
    exact ⟨rfl, area, rfl⟩

lemma additional_eq_iff {o o' : CreateOptions} :
    o.additional = o'.additional ↔ max o.count.toNat 1 = max o'.count.toNat 1 := by
  rw [← UInt32.toNat_inj, ← o.toNat_additional, ← o'.toNat_additional, Nat.add_right_cancel_iff]

/-- The text of a final request tells how many instances are made and where the images are from. -/
lemma write_finalRequest_eq_iff {o o' : CreateOptions} {area area' : String} :
    (finalRequest o area).write = (finalRequest o' area').write ↔
      max o.count.toNat 1 = max o'.count.toNat 1 ∧ SameImages area area' o.source o'.source := by
  rw [CreationRequest.write_injective.eq_iff, CreationRequest.mk.injEq, ← additional_eq_iff,
    and_comm]
  refine and_congr_right fun _ => ?_
  obtain ⟨_, source, _⟩ := o
  obtain ⟨_, source', _⟩ := o'
  cases source <;> cases source' <;>
    simp [finalRequest, SameImages, Builds.named_eq_named_iff]

/-- Where the build of a slot stands in a request. -/
def slotPath (key : String) : List String :=
  ["cvd", "build_source", "android_ci_build_source", key]

section Slots

variable {o : CreateOptions} {builds : Builds} {slot : Option Build} {build : Build}

/-- The key of a slot is mentioned in the final request just if a build was left in the slot. -/
lemma mentions_finalRequest_iff (ho : o.source = .ci builds) (area : String)
    (h : (key, slot) ∈ builds.named.slots) :
    Mentions key (finalRequest o area).write ↔ ∃ build, slot = some build := by
  have hsource : (finalRequest o area).source = .ci builds.named := by simp [finalRequest, ho]
  rw [CreationRequest.mentions_write_iff _ (Builds.mem_slotKeys h), hsource]
  constructor
  · rintro ⟨_, build, hbuilds, hmem⟩
    obtain rfl := BuildSource.ci.inj hbuilds
    exact ⟨build, Builds.slot_unique h hmem⟩
  · rintro ⟨build, rfl⟩
    exact ⟨_, build, rfl, h⟩

/-- The build of a slot is decoded from its place in the final request. -/
lemma exists_at?_finalRequest (ho : o.source = .ci builds) (area : String)
    (h : (key, some build) ∈ builds.named.slots) :
    ∃ value, at? (slotPath key) (finalRequest o area).write = some value ∧
      Build.reader.decode value = .ok build := by
  have hsource : (finalRequest o area).source = .ci builds.named := by simp [finalRequest, ho]
  refine ⟨build.write, ?_, ?_⟩
  · rw [slotPath, CreationRequest.at?_source, hsource]
    simp only [at?, BuildSource.member?_ci, Builds.member?_slot _ h, Option.map_some,
      Option.bind_some]
  · exact build.reads_write.decode_self

lemma mem_slots_named (h : (key, slot) ∈ builds.replacements) :
    (key, slot.filter fun build => !build.isEmpty) ∈ builds.named.slots := by
  refine List.mem_cons_of_mem _ ?_
  rw [Builds.replacements_named]
  exact List.mem_map.mpr ⟨(key, slot), h, rfl⟩

end Slots

/-- **The text of a request tells what was asked for.**  A creation asks a host to create by its
final request only.  Two final requests have one text exactly if as many instances are made and the
images come from the same area, or from the same builds up to slots that name none.  A request for
builds always holds the main build; it mentions the key of another slot exactly if the slot names a
build, and what it holds there is decoded as this build.  A request for uploaded images mentions no
slot.  Two requests to fetch a bundle have one text exactly if they are for the same build. -/
theorem write_finalRequest (o o' : CreateOptions) (area area' : String) :
    (∀ endpoint answers host request,
      .createInstances host request ∈ (run endpoint answers o).calls →
        host = o.host ∧ ∃ made, request = finalRequest o made) ∧
    ((finalRequest o area).write = (finalRequest o' area').write ↔
      max o.count.toNat 1 = max o'.count.toNat 1 ∧ SameImages area area' o.source o'.source) ∧
    (∀ builds, o.source = .ci builds →
      Mentions "main_build" (finalRequest o area).write ∧
      (∃ value, at? (slotPath "main_build") (finalRequest o area).write = some value ∧
        Build.reader.decode value = .ok builds.main) ∧
      ∀ key slot, (key, slot) ∈ builds.replacements →
        (Mentions key (finalRequest o area).write ↔
          ∃ build, slot = some build ∧ build ≠ ⟨"", "", ""⟩) ∧
        ∀ build, slot = some build → build ≠ ⟨"", "", ""⟩ →
          ∃ value, at? (slotPath key) (finalRequest o area).write = some value ∧
            Build.reader.decode value = .ok build) ∧
    (o.source = .localBuild →
      ∀ key ∈ Builds.slotKeys, ¬ Mentions key (finalRequest o area).write) ∧
    ∀ build build' : Build,
      (FetchRequest.mk build).write = (FetchRequest.mk build').write ↔ build = build' := by
  refine ⟨fun _ _ _ _ => exists_finalRequest_of_mem_calls, write_finalRequest_eq_iff, ?_, ?_, ?_⟩
  · intro builds ho
    have hmain : ("main_build", some builds.main) ∈ builds.named.slots := List.mem_cons_self
    refine ⟨(mentions_finalRequest_iff ho area hmain).mpr ⟨_, rfl⟩,
      exists_at?_finalRequest ho area hmain, fun key slot hslot => ⟨?_, ?_⟩⟩
    · rw [mentions_finalRequest_iff ho area (mem_slots_named hslot)]
      simp only [filter_eq_some_iff]
    · rintro build rfl hbuild
      have hleft := mem_slots_named hslot
      rw [filter_eq_some_iff.mpr ⟨rfl, hbuild⟩] at hleft
      exact exists_at?_finalRequest ho area hleft
  · intro ho key hkey
    rw [CreationRequest.mentions_write_iff _ hkey]
    simp [finalRequest, ho]
  · intro build build'
    rw [FetchRequest.write_injective.eq_iff, FetchRequest.mk.injEq]

end Creation

end DeviceFleet
