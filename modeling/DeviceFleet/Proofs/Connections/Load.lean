/-
# Loading the control directory

A load takes one contribution from each file whose name ends in `.json`: the status of an instance
in scope, nothing, or a fault.  `Contributes` says which, in terms of what is in the file.  An entry
that the listing of the directory fails to tell adds a fault, too (`Adds`).  `load_exact` says that
a load holds just the contributions: the statuses by instance, and beside them the faults.  The
scope matters for the statuses alone, and the order in which the directory is enumerated only where
two files disagree about an instance.
-/
import DeviceFleet.Connections.ControlDir
import DeviceFleet.Proofs.Connections.Statuses
import DeviceFleet.Proofs.Fault.Notes
import Mathlib.Data.List.Forall2

namespace DeviceFleet.ControlDir

open Json

/-! ## The files that are read -/

/-- A name that records a connection: a stem, which is not empty, and `.json`. -/
def Considered (name : String) : Prop := ∃ stem, stem ≠ "" ∧ name = stem ++ ".json"

lemma isRecordName_iff (name : String) : isRecordName name = true ↔ Considered name := by
  rw [isRecordName, Path.hasExtension, Bool.and_eq_true, beq_iff_eq, Bool.not_eq_true',
    List.isEmpty_eq_false_iff]
  constructor
  · rintro ⟨hstem, hname⟩
    refine ⟨String.ofList (name.toList.take (name.toList.length - 5)), ?_, ?_⟩
    · rwa [Ne, ← String.toList_eq_nil_iff, String.toList_ofList]
    · apply String.toList_injective
      rw [String.toList_append, String.toList_ofList]
      exact hname
  · rintro ⟨stem, hstem, rfl⟩
    -- without the five characters of `.json`, the stem is left
    have htake : (stem ++ ".json").toList.take ((stem ++ ".json").toList.length - 5) =
        stem.toList := by
      rw [String.toList_append, List.length_append]
      exact List.take_left
    refine ⟨?_, ?_⟩
    · show (stem ++ ".json").toList.take ((stem ++ ".json").toList.length - 5) ≠ []
      rwa [htake, Ne, String.toList_eq_nil_iff]
    · show _ = (stem ++ ".json").toList.take ((stem ++ ".json").toList.length - 5) ++ _
      rw [htake, String.toList_append]
      rfl

instance : DecidablePred Considered := fun name => decidable_of_iff _ (isRecordName_iff name)

/-- The entries that count: those without a name, and those that record a connection. -/
def Counts : DirectoryEntry → Prop
  | .error _ => True
  | .ok name => Considered name

instance : DecidablePred Counts
  | .error _ => .isTrue trivial
  | .ok name => inferInstanceAs (Decidable (Considered name))

@[simp] lemma counts_error (cause : IoFault) : Counts (.error cause) := trivial

@[simp] lemma counts_ok {name : String} : Counts (.ok name) ↔ Considered name := .rfl

/-- The path of an entry of the directory. -/
def recordPath (controlDir name : String) : String := Path.join (directory controlDir) name

/-! ## Contributions -/

/-- What a file adds to a load. -/
inductive Contribution where
  /-- The connection of an instance. -/
  | status (i : Identity) (c : ConnectionStatus)
  /-- Nothing. -/
  | nothing
  /-- A fault. -/
  | fault (f : Fault)

/-- The status that is added. -/
def Contribution.status? : Contribution → Option (Identity × ConnectionStatus)
  | .status i c => some (i, c)
  | .nothing | .fault _ => none

/-- The fault that is added. -/
def Contribution.fault? : Contribution → Option Fault
  | .fault f => some f
  | .status .. | .nothing => none

/-- What the file at a path adds to a load of the given scope. -/
inductive Contributes (fs : FileSystem) (scope : Scope) (path : String) : Contribution → Prop
  | status {content : String} {r : ConnectionRecord} (htext : fs.text path = .ok content)
      (hrecord : ConnectionRecord.reader.decode content.toList = .ok r)
      (hscope : scope.includes r.identity.host = true) :
      Contributes fs scope path (.status r.identity r.status)
  | outOfScope {content : String} {r : ConnectionRecord} (htext : fs.text path = .ok content)
      (hrecord : ConnectionRecord.reader.decode content.toList = .ok r)
      (hscope : scope.includes r.identity.host = false) :
      Contributes fs scope path .nothing
  | unreadable {cause : IoFault} (htext : fs.text path = .error cause) :
      Contributes fs scope path (.fault (.context ("reading connection file " ++ path) (.io cause)))
  | undecodable {content : String} {error : Json.ReadError} (htext : fs.text path = .ok content)
      (hrecord : ConnectionRecord.reader.decode content.toList = .error error) :
      Contributes fs scope path
        (.fault (.context ("parsing connection file " ++ path) (.json error)))

/-- What an entry of the directory adds to a load: what the file of that name adds, or the fault of
the listing. -/
inductive Adds (fs : FileSystem) (scope : Scope) (controlDir : String) :
    DirectoryEntry → Contribution → Prop
  | named {name : String} {c : Contribution}
      (h : Contributes fs scope (recordPath controlDir name) c) :
      Adds fs scope controlDir (.ok name) c
  | unlisted (cause : IoFault) :
      Adds fs scope controlDir (.error cause)
        (.fault (.context ("listing " ++ directory controlDir) (.io cause)))

/-- The contribution of the file at a path. -/
def contribution (fs : FileSystem) (scope : Scope) (path : String) : Contribution :=
  match readRecord fs path with
  | .error f => .fault f
  | .ok r => if scope.includes r.identity.host then .status r.identity r.status else .nothing

/-- What an entry of the directory `dir` adds. -/
def addition (fs : FileSystem) (scope : Scope) (dir : String) : DirectoryEntry → Contribution
  | .error cause => .fault (.context ("listing " ++ dir) (.io cause))
  | .ok name => contribution fs scope (Path.join dir name)

variable {fs fs' : FileSystem} {scope : Scope} {path controlDir : String} {entry : DirectoryEntry}
  {c : Contribution}

lemma exists_contributes (fs : FileSystem) (scope : Scope) (path : String) :
    ∃ c, Contributes fs scope path c := by
  cases htext : fs.text path with
  | error cause => exact ⟨_, .unreadable htext⟩
  | ok content =>
    cases hrecord : ConnectionRecord.reader.decode content.toList with
    | error error => exact ⟨_, .undecodable htext hrecord⟩
    | ok r =>
      cases hscope : scope.includes r.identity.host with
      | true => exact ⟨_, .status htext hrecord hscope⟩
      | false => exact ⟨_, .outOfScope htext hrecord hscope⟩

lemma Contributes.eq_contribution (h : Contributes fs scope path c) :
    c = contribution fs scope path := by
  cases h with
  | status htext hrecord hscope => simp [contribution, readRecord, htext, hrecord, hscope]
  | outOfScope htext hrecord hscope => simp [contribution, readRecord, htext, hrecord, hscope]
  | unreadable htext =>
    simp only [contribution, readRecord, htext]
    rfl
  | undecodable htext hrecord =>
    simp only [contribution, readRecord, htext, hrecord]
    rfl

lemma contributes_iff : Contributes fs scope path c ↔ c = contribution fs scope path := by
  refine ⟨fun h => h.eq_contribution, ?_⟩
  rintro rfl
  obtain ⟨c, h⟩ := exists_contributes fs scope path
  rwa [← h.eq_contribution]

lemma adds_iff : Adds fs scope controlDir entry c ↔
    c = addition fs scope (directory controlDir) entry := by
  constructor
  · rintro (h | cause)
    · exact h.eq_contribution
    · rfl
  · rintro rfl
    cases entry with
    | error cause => exact .unlisted cause
    | ok name => exact .named (contributes_iff.mpr rfl)

lemma adds_ok_iff {name : String} :
    Adds fs scope controlDir (.ok name) c ↔ Contributes fs scope (recordPath controlDir name) c :=
  adds_iff.trans contributes_iff.symm

lemma readRecord_eq_ok_iff {r : ConnectionRecord} :
    readRecord fs path = .ok r ↔ ∃ content, fs.text path = .ok content ∧
      ConnectionRecord.reader.decode content.toList = .ok r := by
  rw [readRecord]
  cases fs.text path with
  | error e => simp
  | ok content =>
    cases h : ConnectionRecord.reader.decode content.toList with
    | error e => simp [h]
    | ok s => simp [h]

/-- A status comes from a record in scope. -/
lemma contributes_status_iff {i : Identity} {status : ConnectionStatus} :
    Contributes fs scope path (.status i status) ↔
      readRecord fs path = .ok ⟨i, status⟩ ∧ scope.includes i.host = true := by
  constructor
  · intro h
    generalize hadded : Contribution.status i status = added at h
    cases h with
    | status htext hrecord hscope =>
      obtain ⟨rfl, rfl⟩ := Contribution.status.inj hadded
      exact ⟨by simp only [readRecord, htext, hrecord], hscope⟩
    | outOfScope => cases hadded
    | unreadable => cases hadded
    | undecodable => cases hadded
  · rintro ⟨hrecord, hscope⟩
    rw [contributes_iff, contribution, hrecord]
    exact (if_pos hscope).symm

lemma contribution_congr (h : fs'.bytes path = fs.bytes path) :
    contribution fs' scope path = contribution fs scope path := by
  simp only [contribution, readRecord, FileSystem.text, h]

/-- The scope drops statuses. -/
lemma status?_contribution (scope : Scope) (path : String) :
    (contribution fs scope path).status? =
      (contribution fs .allHosts path).status?.filter fun e => scope.includes e.1.host := by
  rw [contribution, contribution]
  cases readRecord fs path with
  | error f => rfl
  | ok r =>
    show (if scope.includes r.identity.host then Contribution.status r.identity r.status
      else Contribution.nothing).status? = Option.filter _ (some (r.identity, r.status))
    rw [Option.filter_some]
    split <;> rfl

/-- The scope drops no fault. -/
lemma fault?_contribution (scope other : Scope) (path : String) :
    (contribution fs scope path).fault? = (contribution fs other path).fault? := by
  rw [contribution, contribution]
  cases readRecord fs path with
  | error f => rfl
  | ok r =>
    have hnone : ∀ p : Bool, (if p then Contribution.status r.identity r.status
        else Contribution.nothing).fault? = none := by
      rintro (_ | _) <;> rfl
    exact (hnone _).trans (hnone _).symm

lemma status?_addition (scope : Scope) (dir : String) (entry : DirectoryEntry) :
    (addition fs scope dir entry).status? =
      (addition fs .allHosts dir entry).status?.filter fun e => scope.includes e.1.host := by
  cases entry with
  | error cause => rfl
  | ok name => exact status?_contribution scope _

lemma fault?_addition (scope other : Scope) (dir : String) (entry : DirectoryEntry) :
    (addition fs scope dir entry).fault? = (addition fs other dir entry).fault? := by
  cases entry with
  | error cause => rfl
  | ok name => exact fault?_contribution ..

/-! ## The scan -/

/-- The contributions of entries of a directory. -/
def contributionsAt (fs : FileSystem) (scope : Scope) (dir : String)
    (entries : List DirectoryEntry) : List Contribution :=
  (entries.filter (Counts ·)).map (addition fs scope dir)

lemma contributionsAt_append (fs : FileSystem) (scope : Scope) (dir : String)
    (before after : List DirectoryEntry) :
    contributionsAt fs scope dir (before ++ after) =
      contributionsAt fs scope dir before ++ contributionsAt fs scope dir after := by
  rw [contributionsAt, List.filter_append, List.map_append]
  rfl

lemma contributionsAt_of_counts {dir : String} (h : Counts entry) :
    contributionsAt fs scope dir [entry] = [addition fs scope dir entry] := by
  rw [contributionsAt, List.filter_cons_of_pos (by simpa using h)]
  rfl

lemma contributionsAt_of_not_counts {dir : String} (h : ¬ Counts entry) :
    contributionsAt fs scope dir [entry] = [] := by
  rw [contributionsAt, List.filter_cons_of_neg (by simpa using h)]
  rfl

/-- The scan that has taken in the given contributions. -/
def Scan.of (contributions : List Contribution) : Scan :=
  ⟨.ofList (contributions.filterMap Contribution.status?),
    (contributions.filterMap Contribution.fault?).reverse⟩

lemma of_concat_fault (contributions : List Contribution) (f : Fault) :
    Scan.of (contributions ++ [.fault f]) = (Scan.of contributions).addFault f := by
  simp [Scan.of, Scan.addFault, Contribution.status?, Contribution.fault?, List.filterMap_cons]

lemma of_concat_nothing (contributions : List Contribution) :
    Scan.of (contributions ++ [.nothing]) = Scan.of contributions := by
  simp [Scan.of, Contribution.status?, Contribution.fault?, List.filterMap_cons]

lemma of_concat_status (contributions : List Contribution) (i : Identity) (c : ConnectionStatus) :
    Scan.of (contributions ++ [.status i c]) =
      { Scan.of contributions with statuses := (Scan.of contributions).statuses.insert i c } := by
  simp [Scan.of, Contribution.status?, Contribution.fault?, List.filterMap_cons,
    Statuses.ofList_concat]

/-- Taking in one more entry is taking in its contribution, if it counts. -/
lemma add_of (dir : String) (contributions : List Contribution) (entry : DirectoryEntry) :
    (Scan.of contributions).add fs scope dir entry =
      .of (contributions ++ contributionsAt fs scope dir [entry]) := by
  cases entry with
  | error cause =>
    rw [contributionsAt_of_counts (counts_error cause)]
    exact (of_concat_fault ..).symm
  | ok name =>
    by_cases hname : Considered name
    · rw [Scan.add, if_pos ((isRecordName_iff name).mpr hname),
        contributionsAt_of_counts (counts_ok.mpr hname), addition, contribution]
      cases readRecord fs (Path.join dir name) with
      | error f => exact (of_concat_fault ..).symm
      | ok r =>
        cases hscope : scope.includes r.identity.host with
        | true =>
          simp only [hscope, if_true]
          exact (of_concat_status ..).symm
        | false =>
          simp only [hscope, Bool.false_eq_true, if_false]
          exact (of_concat_nothing _).symm
    · rw [Scan.add, if_neg (fun h => hname ((isRecordName_iff name).mp h)),
        contributionsAt_of_not_counts (mt counts_ok.mp hname), List.append_nil]

/-- A scan holds the contributions of the entries that it has taken in. -/
lemma foldl_add (dir : String) (entries : List DirectoryEntry) :
    entries.foldl (Scan.add fs scope dir) {} = .of (contributionsAt fs scope dir entries) := by
  -- the fold takes the last entry in last, so the induction is from the end
  induction entries using List.reverseRecOn with
  | nil => rfl
  | append_singleton entries entry ih =>
    rw [List.foldl_append, ih, contributionsAt_append]
    exact add_of dir _ entry

/-! ## The load -/

/-- The contributions of a control directory, in the order in which it is enumerated. -/
def contributions (fs : FileSystem) (scope : Scope) (controlDir : String) : List Contribution :=
  match fs.entries (directory controlDir) with
  | .error _ => []
  | .ok entries => contributionsAt fs scope (directory controlDir) entries

variable {entries entries' : List DirectoryEntry}

lemma contributions_of_entries (h : fs.entries (directory controlDir) = .ok entries) :
    contributions fs scope controlDir =
      contributionsAt fs scope (directory controlDir) entries := by
  rw [contributions, h]

lemma contributions_of_error {cause : IoFault}
    (h : fs.entries (directory controlDir) = .error cause) :
    contributions fs scope controlDir = [] := by
  rw [contributions, h]

/-- A contribution is what an entry that counts adds. -/
lemma mem_contributions_iff (h : fs.entries (directory controlDir) = .ok entries) :
    c ∈ contributions fs scope controlDir ↔
      ∃ entry ∈ entries, Counts entry ∧ Adds fs scope controlDir entry c := by
  rw [contributions_of_entries h, contributionsAt, List.mem_map]
  constructor
  · rintro ⟨entry, hmem, hc⟩
    obtain ⟨hmem, hcounts⟩ := List.mem_filter.mp hmem
    exact ⟨entry, hmem, by simpa using hcounts, adds_iff.mpr hc.symm⟩
  · rintro ⟨entry, hmem, hcounts, hc⟩
    exact ⟨entry, List.mem_filter.mpr ⟨hmem, by simpa using hcounts⟩, (adds_iff.mp hc).symm⟩

lemma statuses_load (fs : FileSystem) (controlDir : String) (scope : Scope) :
    (load fs controlDir scope).statuses =
      .ofList ((contributions fs scope controlDir).filterMap Contribution.status?) := by
  cases h : fs.entries (directory controlDir) with
  | error cause =>
    rw [contributions_of_error h, load, h]
    dsimp only
    split <;> rfl
  | ok entries =>
    rw [contributions_of_entries h, load, h]
    dsimp only
    rw [foldl_add]
    rfl

lemma fault_load (h : fs.entries (directory controlDir) = .ok entries) :
    (load fs controlDir scope).fault = (Aggregate.ofList?
      ((contributions fs scope controlDir).filterMap Contribution.fault?)).map
        Aggregate.toFault := by
  rw [contributions_of_entries h, load, h]
  dsimp only
  rw [foldl_add, Scan.of, List.reverse_reverse]

lemma filterMap_fault?_contributionsAt (scope other : Scope) (dir : String)
    (entries : List DirectoryEntry) :
    (contributionsAt fs scope dir entries).filterMap Contribution.fault? =
      (contributionsAt fs other dir entries).filterMap Contribution.fault? := by
  rw [contributionsAt, contributionsAt, List.filterMap_map, List.filterMap_map]
  exact List.filterMap_congr fun entry _ => fault?_addition ..

lemma filterMap_fault?_contributions (fs : FileSystem) (scope other : Scope)
    (controlDir : String) :
    (contributions fs scope controlDir).filterMap Contribution.fault? =
      (contributions fs other controlDir).filterMap Contribution.fault? := by
  cases h : fs.entries (directory controlDir) with
  | error cause => rw [contributions_of_error h, contributions_of_error h]
  | ok entries =>
    rw [contributions_of_entries h, contributions_of_entries h]
    exact filterMap_fault?_contributionsAt ..

lemma filterMap_status?_contributions (fs : FileSystem) (scope : Scope) (controlDir : String) :
    (contributions fs scope controlDir).filterMap Contribution.status? =
      ((contributions fs .allHosts controlDir).filterMap Contribution.status?).filter fun e =>
        scope.includes e.1.host := by
  cases h : fs.entries (directory controlDir) with
  | error cause =>
    rw [contributions_of_error h, contributions_of_error h]
    rfl
  | ok entries =>
    rw [contributions_of_entries h, contributions_of_entries h, contributionsAt, contributionsAt,
      List.filterMap_map, List.filterMap_map, List.filter_filterMap]
    exact List.filterMap_congr fun entry _ => status?_addition ..

/-- What cannot be read does not depend on the scope. -/
lemma fault_load_eq_of_scope (fs : FileSystem) (controlDir : String) (scope other : Scope) :
    (load fs controlDir scope).fault = (load fs controlDir other).fault := by
  cases h : fs.entries (directory controlDir) with
  | error cause =>
    rw [load, load, h]
  | ok entries => rw [fault_load h, fault_load h, filterMap_fault?_contributions fs scope other]

/-- A load finds what the load of all hosts finds, as far as its scope goes. -/
lemma find?_load (fs : FileSystem) (controlDir : String) (scope : Scope) (i : Identity) :
    (load fs controlDir scope).statuses.find? i =
      if scope.includes i.host then (load fs controlDir .allHosts).statuses.find? i else none := by
  rw [statuses_load, statuses_load, filterMap_status?_contributions]
  exact Statuses.find?_ofList_filter fun i => scope.includes i.host

/-! ## Exactness -/

lemma mem_filterMap_status?_iff {cs : List Contribution} {i : Identity} {c : ConnectionStatus} :
    (i, c) ∈ cs.filterMap Contribution.status? ↔ .status i c ∈ cs := by
  rw [List.mem_filterMap]
  constructor
  · rintro ⟨⟨j, d⟩ | _ | f, hmem, hstatus⟩
    · obtain ⟨rfl, rfl⟩ := Prod.mk.inj (Option.some.inj hstatus)
      exact hmem
    · exact nomatch hstatus
    · exact nomatch hstatus
  · exact fun hmem => ⟨_, hmem, rfl⟩

lemma mem_filterMap_fault?_iff {cs : List Contribution} {f : Fault} :
    f ∈ cs.filterMap Contribution.fault? ↔ .fault f ∈ cs := by
  rw [List.mem_filterMap]
  constructor
  · rintro ⟨⟨j, d⟩ | _ | g, hmem, hfault⟩
    · exact nomatch hfault
    · exact nomatch hfault
    · obtain rfl := Option.some.inj hfault
      exact hmem
  · exact fun hmem => ⟨_, hmem, rfl⟩

/-- A load holds contributions, and nothing else. -/
structure Holds (loaded : Loaded) (contributions : List Contribution) : Prop where
  /-- An instance has one connection at most. -/
  nodup : loaded.statuses.keys.Nodup
  /-- The instances are those of which a status was contributed. -/
  mem_keys : ∀ i, i ∈ loaded.statuses.keys ↔ ∃ c, .status i c ∈ contributions
  /-- Every connection was contributed. -/
  mem_of_find : ∀ i c, loaded.statuses.find? i = some c → .status i c ∈ contributions
  /-- Nothing is told of only if no fault was contributed. -/
  fault_eq_none_iff : loaded.fault = none ↔ ∀ f, .fault f ∉ contributions
  /-- What is told of are the faults that were contributed, in order. -/
  eq_of_fault : ∀ f, loaded.fault = some f →
    f = .aggregate (contributions.filterMap Contribution.fault?)

lemma holds_load (h : fs.entries (directory controlDir) = .ok entries) :
    Holds (load fs controlDir scope) (contributions fs scope controlDir) := by
  have hstatuses := statuses_load fs controlDir scope
  refine ⟨?_, fun i => ?_, fun i c hfind => ?_, ?_, fun f hf => ?_⟩
  · rw [hstatuses]
    exact Statuses.nodup_keys_ofList
  · rw [hstatuses, Statuses.mem_keys_ofList_iff]
    exact exists_congr fun c => mem_filterMap_status?_iff
  · rw [hstatuses] at hfind
    exact mem_filterMap_status?_iff.mp (Statuses.mem_of_find?_ofList hfind)
  · rw [fault_load h, Option.map_eq_none_iff, Aggregate.ofList?, dite_eq_left_iff]
    simp only [reduceCtorEq, imp_false, not_not, List.eq_nil_iff_forall_not_mem,
      mem_filterMap_fault?_iff]
  · rw [fault_load h, Aggregate.ofList?] at hf
    split at hf
    · cases hf
    · exact (Option.some.inj hf).symm

lemma faults_load (h : fs.entries (directory controlDir) = .ok entries) :
    (load fs controlDir scope).faults =
      (contributions fs scope controlDir).filterMap Contribution.fault? := by
  rw [Loaded.faults, fault_load h, Fault.flatMap_flattened_ofList?]

/-! ## Other snapshots -/

/-- The files of those entries hold the same bytes in both file systems. -/
def SameFiles (controlDir : String) (entries : List DirectoryEntry) (fs' fs : FileSystem) : Prop :=
  ∀ name, .ok name ∈ entries →
    fs'.bytes (recordPath controlDir name) = fs.bytes (recordPath controlDir name)

lemma contributions_of_sameFiles (h : fs'.entries (directory controlDir) = .ok entries)
    (hsame : SameFiles controlDir entries fs' fs) :
    contributions fs' scope controlDir =
      contributionsAt fs scope (directory controlDir) entries := by
  rw [contributions_of_entries h]
  refine List.map_congr_left fun entry hentry => ?_
  cases entry with
  | error cause => rfl
  | ok name => exact contribution_congr (hsame name (List.mem_of_mem_filter hentry))

/-- What adds a fault may as well not be there, as far as statuses go. -/
lemma statuses_load_of_fault {before after : List DirectoryEntry} {f : Fault}
    (h : fs.entries (directory controlDir) = .ok (before ++ entry :: after))
    (h' : fs'.entries (directory controlDir) = .ok (before ++ after))
    (hsame : SameFiles controlDir (before ++ after) fs' fs)
    (hf : Adds fs scope controlDir entry (.fault f)) :
    (load fs' controlDir scope).statuses = (load fs controlDir scope).statuses := by
  have hnone : (contributionsAt fs scope (directory controlDir) [entry]).filterMap
      Contribution.status? = [] := by
    by_cases hcounts : Counts entry
    · rw [contributionsAt_of_counts hcounts, ← adds_iff.mp hf]
      rfl
    · rw [contributionsAt_of_not_counts hcounts]
      rfl
  rw [statuses_load, statuses_load, contributions_of_sameFiles h' hsame,
    contributions_of_entries h, List.append_cons, contributionsAt_append, contributionsAt_append,
    contributionsAt_append, List.filterMap_append, List.filterMap_append, List.filterMap_append,
    hnone, List.append_nil]

lemma contributionsAt_perm (scope : Scope) (dir : String) (h : entries'.Perm entries) :
    (contributionsAt fs scope dir entries').Perm (contributionsAt fs scope dir entries) :=
  (h.filter _).map _

/-- **A load is exact, and depends on the order of the directory only where files disagree.**  Each
file of the directory whose name is a stem and `.json` contributes exactly one of a status, nothing
or a fault that names the file, each entry that the listing fails to tell adds a fault that names
the directory, and the load holds just these contributions.  The faults are the same in every scope;
what adds a fault changes no status; and if the directory is enumerated in another order, the faults
are the same up to order, and so is every status that is found, unless two contributions
disagree. -/
theorem load_exact (fs : FileSystem) (controlDir : String) (scope : Scope)
    {entries : List DirectoryEntry} (hentries : fs.entries (directory controlDir) = .ok entries) :
    (∀ path, ∃! c, Contributes fs scope path c) ∧
    (∀ path f, Contributes fs scope path (.fault f) →
      ∃ doing cause, f = .context (doing ++ path) cause) ∧
    ∃ contributed : List Contribution,
      List.Forall₂ (Adds fs scope controlDir) (entries.filter (Counts ·)) contributed ∧
      Holds (load fs controlDir scope) contributed ∧
      (∀ other, (load fs controlDir other).fault = (load fs controlDir scope).fault) ∧
      (∀ fs' before entry after f, entries = before ++ entry :: after →
        Adds fs scope controlDir entry (.fault f) →
        fs'.entries (directory controlDir) = .ok (before ++ after) →
        SameFiles controlDir (before ++ after) fs' fs →
        (load fs' controlDir scope).statuses = (load fs controlDir scope).statuses) ∧
      ∀ fs' entries', entries'.Perm entries →
        fs'.entries (directory controlDir) = .ok entries' →
        SameFiles controlDir entries fs' fs →
        (load fs' controlDir scope).faults.Perm (load fs controlDir scope).faults ∧
        ((∀ i c c', .status i c ∈ contributed → .status i c' ∈ contributed → c = c') →
          ∀ i, (load fs' controlDir scope).statuses.find? i =
            (load fs controlDir scope).statuses.find? i) := by
  refine ⟨fun path => ?_, fun path f hf => ?_, contributions fs scope controlDir, ?_,
    holds_load hentries, fun other => fault_load_eq_of_scope .., ?_, ?_⟩
  · exact ⟨_, contributes_iff.mpr rfl, fun c hc => hc.eq_contribution⟩
  · cases hf with
    | unreadable => exact ⟨_, _, rfl⟩
    | undecodable => exact ⟨_, _, rfl⟩
  · rw [contributions_of_entries hentries, contributionsAt, List.forall₂_map_right_iff]
    exact List.forall₂_same.mpr fun entry _ => adds_iff.mpr rfl
  · rintro fs' before entry after f rfl hf hentries' hsame
    exact statuses_load_of_fault hentries hentries' hsame hf
  · intro fs' entries' hperm hentries' hsame
    have hsame' : SameFiles controlDir entries' fs' fs :=
      fun name hname => hsame name (hperm.mem_iff.mp hname)
    -- the contributions are permuted like the entries, and both parts of a load follow them
    have hcontributions : (contributions fs' scope controlDir).Perm
        (contributions fs scope controlDir) := by
      rw [contributions_of_sameFiles hentries' hsame', contributions_of_entries hentries]
      exact contributionsAt_perm scope _ hperm
    refine ⟨?_, fun hagree i => ?_⟩
    · rw [faults_load hentries', faults_load hentries]
      exact hcontributions.filterMap _
    · rw [statuses_load, statuses_load]
      refine Statuses.find?_ofList_perm (hcontributions.filterMap _) fun i c c' hc hc' => ?_
      exact hagree i c c' (mem_filterMap_status?_iff.mp hc) (mem_filterMap_status?_iff.mp hc')

/-- A control directory with a file that is passed over, one that cannot be read, one that records a
connection, and an entry that the listing fails to tell. -/
def mixed : FileSystem where
  bytes path :=
    if path = "d/connections/h.json" then .ok "[[\"h\",\"h\",\"h\"],[[1,\"h\"]]]".toUTF8
    else .error .isDirectory
  modified _ := .error .notFound
  entries _ := .ok [.ok ".json", .ok "dir.json", .ok "h.json", .error (.system 5)]

lemma contributes_mixed : Contributes mixed (.host "h") "d/connections/h.json"
    (.status ⟨"h", "h", "h"⟩ ⟨⟨1, "h"⟩⟩) := by
  have hname : ∀ rest, textReader.read ('"' :: 'h' :: '"' :: rest) = .ok ("h", rest) := by
    intro rest
    simp [textReader, skipSpace, isSpace, readBody, readBodyFrom, Except.map]
  have hport : ∀ rest, portReader.read ('1' :: ',' :: rest) = .ok (1, ',' :: rest) :=
    fun rest => rfl
  refine .status (r := ⟨⟨"h", "h", "h"⟩, ⟨⟨1, "h"⟩⟩⟩) (FileSystem.text_of_bytes rfl) ?_ rfl
  simp [ConnectionRecord.reader, ConnectionRecord.schema, Identity.reader, Identity.schema,
    ConnectionStatus.reader, ConnectionStatus.schema, AdbStatus.reader, AdbStatus.schema,
    Reader.decode, Schema.reader, Schema.readList, readPositions, nextElement, endList, Field.of,
    Reader.map, Except.map, skipSpace, isSpace, hname, hport]

/-- The connection is loaded, and what cannot be listed or read is reported. -/
theorem load_exact_mixed :
    (∀ i, i ∈ (load mixed "d" (.host "h")).statuses.keys ↔ i = ⟨"h", "h", "h"⟩) ∧
    (load mixed "d" (.host "h")).fault = some (.aggregate
      [.context "reading connection file d/connections/dir.json" (.io .isDirectory),
        .context "listing d/connections" (.io (.system 5))]) := by
  have hmixed : mixed.entries (directory "d") =
      .ok [.ok ".json", .ok "dir.json", .ok "h.json", .error (.system 5)] := rfl
  obtain ⟨hunique, -, contributed, hall, hholds, -⟩ := load_exact mixed "d" (.host "h") hmixed
  have hcounts : [.ok ".json", .ok "dir.json", .ok "h.json", .error (.system 5)].filter (Counts ·) =
      [.ok "dir.json", .ok "h.json", .error (.system 5)] := by
    rfl
  rw [hcounts] at hall
  rcases hall with _ | ⟨hfirst, _ | ⟨hsecond, _ | ⟨⟨_⟩, _ | _⟩⟩⟩
  obtain rfl := (hunique _).unique (adds_ok_iff.mp hfirst) (.unreadable rfl)
  obtain rfl := (hunique _).unique (adds_ok_iff.mp hsecond) contributes_mixed
  refine ⟨fun i => ?_, ?_⟩
  · rw [hholds.mem_keys]
    simp
  · cases hfault : (load mixed "d" (.host "h")).fault with
    | none =>
      rw [hholds.fault_eq_none_iff] at hfault
      exact absurd List.mem_cons_self (hfault _)
    | some f =>
      rw [hholds.eq_of_fault f hfault]
      rfl

end DeviceFleet.ControlDir
