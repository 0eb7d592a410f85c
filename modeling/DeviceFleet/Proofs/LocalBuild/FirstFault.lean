/-
# The first fault of a local build

Before a local build is staged, the list of required images is read, the packed host package and its
directory are looked up, and their times are compared.  Each of these checks fails or passes by what
the file system answers, whatever the other checks find (`Fails`).  A build is staged exactly if all
pass, and otherwise the fault is that of the first that fails; this is `stage_of_checks`.
-/
import DeviceFleet.LocalBuild.Staging
import DeviceFleet.Proofs.Workspace.Lookup

namespace DeviceFleet.Staging

open Workspace

/-- What is checked before a build is staged. -/
inductive Check where
  /-- The list of required images can be read. -/
  | manifest
  /-- The packed host package is there. -/
  | archive
  /-- The directory that it was packed from is there. -/
  | directory
  /-- The package is no older than the directory. -/
  | freshness
deriving DecidableEq

/-- The place of a check in the order. -/
def Check.rank : Check → Nat
  | .manifest => 0
  | .archive => 1
  | .directory => 2
  | .freshness => 3

lemma Check.eq_of_rank_eq {a b : Check} (h : a.rank = b.rank) : a = b := by
  cases a <;> cases b <;> first | rfl | cases h

/-- Where the list of required images is. -/
def manifestPath (env : BuildEnvironment) : String := Path.join env.buildTop Manifest.location

variable {fs : FileSystem} {env : BuildEnvironment} {check other : Check} {f g : BuildFault}

/-- A check fails with a fault, whatever the other checks find. -/
inductive Fails (fs : FileSystem) (env : BuildEnvironment) : Check → BuildFault → Prop
  | manifest {cause : IoFault} (htext : fs.text (manifestPath env) = .error cause) :
      Fails fs env .manifest (.manifestUnreadable (manifestPath env) cause)
  | missing (harchive : fs.modified (HostPackage.archive env.hostOut) = .error .notFound) :
      Fails fs env .archive (.packageMissing (HostPackage.archive env.hostOut))
  | unreadable {cause : IoFault}
      (harchive : fs.modified (HostPackage.archive env.hostOut) = .error cause)
      (hcause : cause ≠ .notFound) :
      Fails fs env .archive (.packageUnreadable (HostPackage.archive env.hostOut) cause)
  | directory {cause : IoFault}
      (hdirectory : fs.modified (HostPackage.directory env.hostOut) = .error cause) :
      Fails fs env .directory (.packageDirUnreadable (HostPackage.directory env.hostOut) cause)
  | stale {packed changed : Instant}
      (harchive : fs.modified (HostPackage.archive env.hostOut) = .ok packed)
      (hdirectory : fs.modified (HostPackage.directory env.hostOut) = .ok changed)
      (hbefore : packed.seconds * 1000000000 + packed.nanos <
        changed.seconds * 1000000000 + changed.nanos) :
      Fails fs env .freshness (.packageStale (HostPackage.archive env.hostOut))

/-- Every check passes: what the file system answers if it does. -/
structure Passes (fs : FileSystem) (env : BuildEnvironment) (content : String)
    (packed changed : Instant) : Prop where
  /-- The list of required images is a text. -/
  manifest : fs.text (manifestPath env) = .ok content
  /-- The packed host package was last changed at `packed`. -/
  archive : fs.modified (HostPackage.archive env.hostOut) = .ok packed
  /-- Its directory was last changed at `changed`. -/
  directory : fs.modified (HostPackage.directory env.hostOut) = .ok changed
  /-- The package is no older than its directory. -/
  freshness : changed.seconds * 1000000000 + changed.nanos ≤
    packed.seconds * 1000000000 + packed.nanos

/-- The check fails, and no check before it does. -/
structure FailsFirst (fs : FileSystem) (env : BuildEnvironment) (check : Check)
    (f : BuildFault) : Prop where
  /-- It fails with the fault. -/
  fails : Fails fs env check f
  /-- Every check before it passes. -/
  earlier : ∀ other g, other.rank < check.rank → ¬ Fails fs env other g

/-- A check fails in one way. -/
lemma Fails.unique (hf : Fails fs env check f) (hg : Fails fs env check g) : f = g := by
  cases hf <;> cases hg <;> simp_all

/-- One check is the first that fails. -/
lemma FailsFirst.unique (hf : FailsFirst fs env check f) (hg : FailsFirst fs env other g) :
    f = g := by
  rcases Nat.lt_trichotomy check.rank other.rank with hlt | heq | hgt
  · exact absurd hf.fails (hg.earlier check f hlt)
  · obtain rfl := Check.eq_of_rank_eq heq
    exact hf.fails.unique hg.fails
  · exact absurd hg.fails (hf.earlier other g hgt)

section Passing

variable {content : String} {packed changed : Instant}

lemma not_fails_manifest (h : fs.text (manifestPath env) = .ok content) :
    ¬ Fails fs env .manifest f := by
  intro hf
  cases hf with
  | manifest htext =>
    rw [h] at htext
    cases htext

lemma not_fails_archive (h : fs.modified (HostPackage.archive env.hostOut) = .ok packed) :
    ¬ Fails fs env .archive f := by
  intro hf
  cases hf with
  | missing harchive =>
    rw [h] at harchive
    cases harchive
  | unreadable harchive =>
    rw [h] at harchive
    cases harchive

lemma not_fails_directory (h : fs.modified (HostPackage.directory env.hostOut) = .ok changed) :
    ¬ Fails fs env .directory f := by
  intro hf
  cases hf with
  | directory hdirectory =>
    rw [h] at hdirectory
    cases hdirectory

lemma Passes.not_fails (h : Passes fs env content packed changed) (check : Check) :
    ¬ Fails fs env check f := by
  cases check with
  | manifest => exact not_fails_manifest h.manifest
  | archive => exact not_fails_archive h.archive
  | directory => exact not_fails_directory h.directory
  | freshness =>
    have hfresh := h.freshness
    intro hf
    cases hf with
    | stale harchive hdirectory hbefore =>
      rw [h.archive] at harchive
      rw [h.directory] at hdirectory
      cases harchive
      cases hdirectory
      omega

lemma failsFirst_manifest (h : Fails fs env .manifest f) : FailsFirst fs env .manifest f :=
  ⟨h, fun _ _ hlt => absurd hlt (Nat.not_lt_zero _)⟩

lemma failsFirst_archive (hmanifest : fs.text (manifestPath env) = .ok content)
    (h : Fails fs env .archive f) : FailsFirst fs env .archive f := by
  refine ⟨h, fun other g hlt => ?_⟩
  cases other with
  | manifest => exact not_fails_manifest hmanifest
  | _ => exact absurd hlt (by decide)

lemma failsFirst_directory (hmanifest : fs.text (manifestPath env) = .ok content)
    (harchive : fs.modified (HostPackage.archive env.hostOut) = .ok packed)
    (h : Fails fs env .directory f) : FailsFirst fs env .directory f := by
  refine ⟨h, fun other g hlt => ?_⟩
  cases other with
  | manifest => exact not_fails_manifest hmanifest
  | archive => exact not_fails_archive harchive
  | _ => exact absurd hlt (by decide)

lemma failsFirst_freshness (hmanifest : fs.text (manifestPath env) = .ok content)
    (harchive : fs.modified (HostPackage.archive env.hostOut) = .ok packed)
    (hdirectory : fs.modified (HostPackage.directory env.hostOut) = .ok changed)
    (h : Fails fs env .freshness f) : FailsFirst fs env .freshness f := by
  refine ⟨h, fun other g hlt => ?_⟩
  cases other with
  | manifest => exact not_fails_manifest hmanifest
  | archive => exact not_fails_archive harchive
  | directory => exact not_fails_directory hdirectory
  | freshness => exact absurd hlt (by decide)

end Passing

/-! ## The order of the program -/

lemma stage_of_text_error {cause : IoFault} (h : fs.text (manifestPath env) = .error cause) :
    stage fs env = .error (.manifestUnreadable (manifestPath env) cause) := by
  have himages : requiredImages fs env = .error (.manifestUnreadable (manifestPath env) cause) := by
    rw [requiredImages, ← manifestPath, h]
  rw [stage, himages]

/-- Once the list was read, it is the host package that decides. -/
lemma stage_of_text {content : String} (h : fs.text (manifestPath env) = .ok content) :
    stage fs env = (HostPackage.verify fs env.hostOut).map fun _ =>
      Manifest.imagePaths content env.productOut ++ [HostPackage.archive env.hostOut] := by
  have himages : requiredImages fs env = .ok (Manifest.imagePaths content env.productOut) := by
    rw [requiredImages, ← manifestPath, h]
  rw [stage, himages]
  cases HostPackage.verify fs env.hostOut <;> rfl

lemma verify_of_archive_error {cause : IoFault}
    (h : fs.modified (HostPackage.archive env.hostOut) = .error cause) :
    ∃ f, HostPackage.verify fs env.hostOut = .error f ∧ Fails fs env .archive f := by
  by_cases hcause : cause = .notFound
  · subst hcause
    refine ⟨_, ?_, .missing h⟩
    rw [HostPackage.verify, h]
    exact if_pos rfl
  · refine ⟨_, ?_, .unreadable h hcause⟩
    rw [HostPackage.verify, h]
    exact if_neg hcause

lemma verify_of_directory_error {packed : Instant} {cause : IoFault}
    (harchive : fs.modified (HostPackage.archive env.hostOut) = .ok packed)
    (hdirectory : fs.modified (HostPackage.directory env.hostOut) = .error cause) :
    HostPackage.verify fs env.hostOut =
      .error (.packageDirUnreadable (HostPackage.directory env.hostOut) cause) := by
  simp only [HostPackage.verify, harchive, hdirectory]

lemma verify_of_directory {packed changed : Instant}
    (harchive : fs.modified (HostPackage.archive env.hostOut) = .ok packed)
    (hdirectory : fs.modified (HostPackage.directory env.hostOut) = .ok changed) :
    HostPackage.verify fs env.hostOut =
      HostPackage.checkFresh (HostPackage.archive env.hostOut) packed changed := by
  simp only [HostPackage.verify, harchive, hdirectory]

lemma checkFresh_eq (archive : String) (packed changed : Instant) :
    HostPackage.checkFresh archive packed changed =
      if packed.seconds * 1000000000 + packed.nanos < changed.seconds * 1000000000 + changed.nanos
      then .error (.packageStale archive) else .ok () := by
  have hbefore : packed.isBefore changed = true ↔ packed.seconds * 1000000000 + packed.nanos <
      changed.seconds * 1000000000 + changed.nanos := decide_eq_true_iff
  rw [HostPackage.checkFresh]
  exact if_congr hbefore rfl rfl

/-- Some check is the first that fails, and its fault is told; or all pass, and the files are
staged. -/
lemma stage_cases (fs : FileSystem) (env : BuildEnvironment) :
    (∃ check f, FailsFirst fs env check f ∧ stage fs env = .error f) ∨
      ∃ content packed changed, Passes fs env content packed changed ∧
        stage fs env = .ok (Manifest.imagePaths content env.productOut ++
          [HostPackage.archive env.hostOut]) := by
  cases hmanifest : fs.text (manifestPath env) with
  | error cause =>
    exact .inl ⟨_, _, failsFirst_manifest (.manifest hmanifest), stage_of_text_error hmanifest⟩
  | ok content =>
    have hstage := stage_of_text hmanifest
    cases harchive : fs.modified (HostPackage.archive env.hostOut) with
    | error cause =>
      obtain ⟨f, hverify, hfails⟩ := verify_of_archive_error harchive
      rw [hverify] at hstage
      exact .inl ⟨_, f, failsFirst_archive hmanifest hfails, hstage⟩
    | ok packed =>
      cases hdirectory : fs.modified (HostPackage.directory env.hostOut) with
      | error cause =>
        rw [verify_of_directory_error harchive hdirectory] at hstage
        exact .inl ⟨_, _, failsFirst_directory hmanifest harchive (.directory hdirectory), hstage⟩
      | ok changed =>
        rw [verify_of_directory harchive hdirectory, checkFresh_eq] at hstage
        split at hstage
        · next hbefore =>
          have hfails := Fails.stale harchive hdirectory hbefore
          exact .inl ⟨_, _, failsFirst_freshness hmanifest harchive hdirectory hfails, hstage⟩
        · next hfresh =>
          exact .inr ⟨content, packed, changed,
            ⟨hmanifest, harchive, hdirectory, Int.not_lt.mp hfresh⟩, hstage⟩

lemma stage_eq_error_iff : stage fs env = .error f ↔ ∃ check, FailsFirst fs env check f := by
  constructor
  · intro h
    obtain ⟨check, g, hg, hstage⟩ | ⟨content, packed, changed, -, hstage⟩ := stage_cases fs env
    · rw [h] at hstage
      obtain rfl := Except.error.inj hstage
      exact ⟨check, hg⟩
    · rw [h] at hstage
      cases hstage
  · rintro ⟨check, hf⟩
    obtain ⟨other, g, hg, hstage⟩ | ⟨content, packed, changed, hpasses, -⟩ := stage_cases fs env
    · rw [hstage, hf.unique hg]
    · exact absurd hf.fails (hpasses.not_fails check)

lemma stage_eq_ok_iff {files : List String} : stage fs env = .ok files ↔
    ∃ content packed changed, Passes fs env content packed changed ∧
      files = Manifest.imagePaths content env.productOut ++ [HostPackage.archive env.hostOut] := by
  constructor
  · intro h
    obtain ⟨_, _, -, hstage⟩ | ⟨content, packed, changed, hpasses, hstage⟩ := stage_cases fs env
    · rw [h] at hstage
      cases hstage
    · rw [h] at hstage
      exact ⟨content, packed, changed, hpasses, Except.ok.inj hstage⟩
  · rintro ⟨content, packed, changed, hpasses, rfl⟩
    obtain ⟨check, g, hg, -⟩ | ⟨content', _, _, hpasses', hstage⟩ := stage_cases fs env
    · exact absurd hg.fails (hpasses.not_fails check)
    · have hcontent := hpasses.manifest.symm.trans hpasses'.manifest
      rw [hstage, Except.ok.inj hcontent]

/-! ## Single faults -/

section Faults

variable {path content : String} {cause : IoFault}

lemma stage_eq_manifestUnreadable_iff :
    stage fs env = .error (.manifestUnreadable path cause) ↔
      path = manifestPath env ∧ fs.text path = .error cause := by
  rw [stage_eq_error_iff]
  constructor
  · rintro ⟨check, hfails, -⟩
    cases hfails with
    | manifest htext => exact ⟨rfl, htext⟩
  · rintro ⟨rfl, htext⟩
    exact ⟨_, failsFirst_manifest (.manifest htext)⟩

lemma stage_eq_packageMissing_iff (hmanifest : fs.text (manifestPath env) = .ok content) :
    stage fs env = .error (.packageMissing path) ↔
      path = HostPackage.archive env.hostOut ∧ fs.modified path = .error .notFound := by
  rw [stage_eq_error_iff]
  constructor
  · rintro ⟨check, hfails, -⟩
    cases hfails with
    | missing harchive => exact ⟨rfl, harchive⟩
  · rintro ⟨rfl, harchive⟩
    exact ⟨_, failsFirst_archive hmanifest (.missing harchive)⟩

lemma stage_eq_packageUnreadable_iff (hmanifest : fs.text (manifestPath env) = .ok content) :
    stage fs env = .error (.packageUnreadable path cause) ↔
      path = HostPackage.archive env.hostOut ∧ fs.modified path = .error cause ∧
        cause ≠ .notFound := by
  rw [stage_eq_error_iff]
  constructor
  · rintro ⟨check, hfails, -⟩
    cases hfails with
    | unreadable harchive hcause => exact ⟨rfl, harchive, hcause⟩
  · rintro ⟨rfl, harchive, hcause⟩
    exact ⟨_, failsFirst_archive hmanifest (.unreadable harchive hcause)⟩

lemma stage_eq_packageDirUnreadable_iff {packed : Instant}
    (hmanifest : fs.text (manifestPath env) = .ok content)
    (harchive : fs.modified (HostPackage.archive env.hostOut) = .ok packed) :
    stage fs env = .error (.packageDirUnreadable path cause) ↔
      path = HostPackage.directory env.hostOut ∧ fs.modified path = .error cause := by
  rw [stage_eq_error_iff]
  constructor
  · rintro ⟨check, hfails, -⟩
    cases hfails with
    | directory hdirectory => exact ⟨rfl, hdirectory⟩
  · rintro ⟨rfl, hdirectory⟩
    exact ⟨_, failsFirst_directory hmanifest harchive (.directory hdirectory)⟩

lemma stage_eq_packageStale_iff (hmanifest : fs.text (manifestPath env) = .ok content) :
    stage fs env = .error (.packageStale path) ↔
      path = HostPackage.archive env.hostOut ∧ ∃ packed changed,
        fs.modified path = .ok packed ∧
        fs.modified (HostPackage.directory env.hostOut) = .ok changed ∧
        packed.seconds * 1000000000 + packed.nanos <
          changed.seconds * 1000000000 + changed.nanos := by
  rw [stage_eq_error_iff]
  constructor
  · rintro ⟨check, hfails, -⟩
    cases hfails with
    | stale harchive hdirectory hbefore =>
      exact ⟨rfl, _, _, harchive, hdirectory, hbefore⟩
  · rintro ⟨rfl, packed, changed, harchive, hdirectory, hbefore⟩
    exact ⟨_, failsFirst_freshness hmanifest harchive hdirectory
      (.stale harchive hdirectory hbefore)⟩

end Faults

/-- **A local build is staged exactly if every check passes; otherwise the first fault is told.**
The list of required images has to be a text, the packed host package and its directory have to be
there, and the package may not lie before its directory in time, counted in nanoseconds; the files
are then the images in the order of the list, and the package.  Whatever fails first is the fault: a
package that is missing is told apart from one that cannot be inspected, a list or a directory that
is missing is not.  In a tree, each lookup fails for the reasons that lookups have. -/
theorem stage_of_checks (fs : FileSystem) (env : BuildEnvironment) :
    (∀ files, stage fs env = .ok files ↔ ∃ content packed changed,
      fs.text (Path.join env.buildTop "device/google/cuttlefish/required_images") = .ok content ∧
      fs.modified (Path.join env.hostOut "cvd-host_package.tar.gz") = .ok packed ∧
      fs.modified (Path.join env.hostOut "cvd-host_package") = .ok changed ∧
      changed.seconds * 1000000000 + changed.nanos ≤ packed.seconds * 1000000000 + packed.nanos ∧
      files = Manifest.imagePaths content env.productOut ++
        [Path.join env.hostOut "cvd-host_package.tar.gz"]) ∧
    (∀ f, stage fs env = .error f ↔ ∃ check, FailsFirst fs env check f) ∧
    (∀ path cause, stage fs env = .error (.manifestUnreadable path cause) ↔
      path = manifestPath env ∧ fs.text path = .error cause) ∧
    (∀ content, fs.text (manifestPath env) = .ok content →
      (∀ path, stage fs env = .error (.packageMissing path) ↔
        path = HostPackage.archive env.hostOut ∧ fs.modified path = .error .notFound) ∧
      (∀ path cause, stage fs env = .error (.packageUnreadable path cause) ↔
        path = HostPackage.archive env.hostOut ∧ fs.modified path = .error cause ∧
          cause ≠ .notFound) ∧
      (∀ packed, fs.modified (HostPackage.archive env.hostOut) = .ok packed → ∀ path cause,
        stage fs env = .error (.packageDirUnreadable path cause) ↔
          path = HostPackage.directory env.hostOut ∧ fs.modified path = .error cause) ∧
      ∀ path, stage fs env = .error (.packageStale path) ↔
        path = HostPackage.archive env.hostOut ∧ ∃ packed changed,
          fs.modified path = .ok packed ∧
          fs.modified (HostPackage.directory env.hostOut) = .ok changed ∧
          packed.seconds * 1000000000 + packed.nanos <
            changed.seconds * 1000000000 + changed.nanos) ∧
    ∀ t : Tree, fs = t.fileSystem → ∀ path cause,
      (stage fs env = .error (.manifestUnreadable path cause) →
        cause ∈ lookupFaults ∨ cause = .isDirectory ∨ cause = .notText) ∧
      (stage fs env = .error (.packageUnreadable path cause) →
        cause ∈ [.notDirectory, .tooManyLinks, .nameTooLong, .nulInPath]) ∧
      (stage fs env = .error (.packageDirUnreadable path cause) → cause ∈ lookupFaults) := by
  refine ⟨fun files => ?_, fun f => stage_eq_error_iff,
    fun path cause => stage_eq_manifestUnreadable_iff, fun content hmanifest => ?_, ?_⟩
  · rw [stage_eq_ok_iff]
    constructor
    · rintro ⟨content, packed, changed, ⟨hmanifest, harchive, hdirectory, hfresh⟩, hfiles⟩
      exact ⟨content, packed, changed, hmanifest, harchive, hdirectory, hfresh, hfiles⟩
    · rintro ⟨content, packed, changed, hmanifest, harchive, hdirectory, hfresh, hfiles⟩
      exact ⟨content, packed, changed, ⟨hmanifest, harchive, hdirectory, hfresh⟩, hfiles⟩
  · exact ⟨fun path => stage_eq_packageMissing_iff hmanifest,
      fun path cause => stage_eq_packageUnreadable_iff hmanifest,
      fun packed harchive path cause => stage_eq_packageDirUnreadable_iff hmanifest harchive,
      fun path => stage_eq_packageStale_iff hmanifest⟩
  · rintro t rfl path cause
    refine ⟨fun h => ?_, fun h => ?_, fun h => ?_⟩
    · exact Tree.text_error (stage_eq_manifestUnreadable_iff.mp h).2
    · obtain ⟨check, hfails, -⟩ := stage_eq_error_iff.mp h
      cases hfails with
      | unreadable harchive hcause =>
        have hmem := Tree.mem_lookupFaults_of_modified harchive
        exact (List.mem_cons.mp hmem).resolve_left hcause
    · obtain ⟨check, hfails, -⟩ := stage_eq_error_iff.mp h
      cases hfails with
      | directory hdirectory => exact Tree.mem_lookupFaults_of_modified hdirectory

end DeviceFleet.Staging
