/-
# Connections of listed instances

A listed instance carries a connection if the control directory records one for it.  What is
recorded is known by file (`Recorded`); the load turns it into a table by identity
(`find?_load_eq_some_iff`), and a listing looks each instance up under the service, the host that
listed it and its name there.  The main statement is `attached_of_recorded`, for the fleet, in
whatever order its tasks run, and for a host on its own.
-/
import DeviceFleet.Proofs.Inventory.Agreement
import Mathlib.Data.List.Nodup

namespace DeviceFleet

namespace ControlDir

variable {fs : FileSystem} {controlDir : String} {i : Identity} {c c' : ConnectionStatus}

/-- A file of the control directory records that connection of the instance. -/
def Recorded (fs : FileSystem) (controlDir : String) (i : Identity) (c : ConnectionStatus) : Prop :=
  ∃ entries name content, fs.entries (directory controlDir) = .ok entries ∧ .ok name ∈ entries ∧
    Considered name ∧ fs.text (recordPath controlDir name) = .ok content ∧
    ConnectionRecord.reader.decode content.toList = .ok ⟨i, c⟩

/-- No two files record different connections of one instance. -/
def Unambiguous (fs : FileSystem) (controlDir : String) : Prop :=
  ∀ i c c', Recorded fs controlDir i c → Recorded fs controlDir i c' → c = c'

lemma recorded_iff :
    Recorded fs controlDir i c ↔ .status i c ∈ contributions fs .allHosts controlDir := by
  cases hentries : fs.entries (directory controlDir) with
  | error cause => simp [Recorded, hentries, contributions_of_error hentries]
  | ok entries =>
    rw [mem_contributions_iff hentries]
    constructor
    · rintro ⟨entries', name, content, hentries', hmem, hname, htext, hdecode⟩
      obtain rfl := Except.ok.inj (hentries.symm.trans hentries')
      have hstatus : Contributes fs .allHosts (recordPath controlDir name) (.status i c) :=
        contributes_status_iff.mpr ⟨readRecord_eq_ok_iff.mpr ⟨content, htext, hdecode⟩, rfl⟩
      exact ⟨.ok name, hmem, hname, adds_ok_iff.mpr hstatus⟩
    · rintro ⟨entry, hmem, hcounts, hadds⟩
      -- a fault of the listing is no status
      cases hadds with
      | named hstatus =>
        obtain ⟨hrecord, -⟩ := contributes_status_iff.mp hstatus
        obtain ⟨content, htext, hdecode⟩ := readRecord_eq_ok_iff.mp hrecord
        exact ⟨entries, _, content, hentries, hmem, hcounts, htext, hdecode⟩

/-- What a load finds is what is recorded. -/
lemma find?_load_eq_some_iff (h : Unambiguous fs controlDir) :
    (load fs controlDir .allHosts).statuses.find? i = some c ↔ Recorded fs controlDir i c := by
  have hfound : ∀ d, (load fs controlDir .allHosts).statuses.find? i = some d →
      Recorded fs controlDir i d := by
    intro d hd
    rw [statuses_load] at hd
    exact recorded_iff.mpr (mem_filterMap_status?_iff.mp (Statuses.mem_of_find?_ofList hd))
  refine ⟨hfound c, fun hc => ?_⟩
  have hkey : i ∈ (load fs controlDir .allHosts).statuses.keys := by
    rw [statuses_load, Statuses.mem_keys_ofList_iff]
    exact ⟨c, mem_filterMap_status?_iff.mpr (recorded_iff.mp hc)⟩
  obtain ⟨d, hd⟩ := Statuses.mem_keys_iff.mp hkey
  rw [hd, h i d c (hfound d hd) hc]

/-- A load that tells of several faults tells of one at least. -/
lemma root_fault_load_ne (fs : FileSystem) (controlDir : String) (scope : Scope) (fault : Fault)
    (h : (load fs controlDir scope).fault = some fault) : fault.root ≠ .aggregate [] := by
  cases hentries : fs.entries (directory controlDir) with
  | error cause =>
    rw [load, hentries] at h
    simp only at h
    split at h
    · cases h
    · obtain rfl := Option.some.inj h
      intro hempty
      cases hempty
  | ok entries =>
    rw [fault_load hentries] at h
    obtain ⟨several, -, rfl⟩ := Option.map_eq_some_iff.mp h
    intro hempty
    exact several.nonempty (Fault.aggregate.inj hempty)

end ControlDir

namespace Inventory

open ControlDir

/-- A fleet whose connections are recorded in a control directory. -/
def controlledFleet (fs : FileSystem) (controlDir endpoint : String)
    (entries : List (String × HostAnswer)) (waits : String → Option String) : Fleet where
  endpoint := endpoint
  hosts := .ok entries
  connections := load fs controlDir
  waits := waits
  aggregates := root_fault_load_ne fs controlDir

/-- No host occurs twice, and no name occurs twice on a host. -/
structure Distinct (entries : List (String × HostAnswer)) : Prop where
  /-- The hosts are distinct. -/
  hosts : (entries.map Prod.fst).Nodup
  /-- The names that a host lists are distinct. -/
  names : ∀ e ∈ entries, (e.2.records.map (·.name)).Nodup

/-- The instances are those that the hosts of the given entries listed, each with the connection
that is recorded for it. -/
structure Attached (fs : FileSystem) (controlDir endpoint : String)
    (entries : List (String × HostAnswer)) (instances : List Summary) : Prop where
  /-- An instance is known by the service, the host that listed it and its name there. -/
  identities : instances.map (·.identity) =
    entries.flatMap fun e => e.2.records.map fun r => ⟨endpoint, e.1, r.name⟩
  /-- It has just the connection that is recorded for this identity. -/
  connection_iff : ∀ s ∈ instances, ∀ c,
    s.connection = some c ↔ Recorded fs controlDir s.identity c
  /-- No identity is listed twice, if the hosts are distinct, and the names on each. -/
  nodup : Distinct entries → (instances.map (·.identity)).Nodup
  /-- Then what is recorded for an identity is attached to one instance at most. -/
  countP_le_one : Distinct entries → ∀ i c, Recorded fs controlDir i c →
    instances.countP (fun s => s.identity = i ∧ s.connection = some c) ≤ 1

variable {fs : FileSystem} {controlDir endpoint : String} {entries : List (String × HostAnswer)}

lemma connection_summarize (host : String) (statuses : Statuses) (r : RemoteRecord) :
    (summarize endpoint host statuses r).connection =
      statuses.find? (summarize endpoint host statuses r).identity := rfl

/-- Identities differ in the host, or else in the name. -/
lemma nodup_identities (h : Distinct entries) :
    (entries.flatMap fun e =>
      e.2.records.map fun r => Identity.mk endpoint e.1 r.name).Nodup := by
  rw [List.nodup_flatMap]
  refine ⟨fun e he => ?_, (List.pairwise_map.mp h.hosts).imp ?_⟩
  · have hmap : (e.2.records.map fun r => Identity.mk endpoint e.1 r.name) =
        (e.2.records.map (·.name)).map (Identity.mk endpoint e.1) := by
      rw [List.map_map]
      rfl
    rw [hmap]
    exact (h.names e he).map fun a b hab => (Identity.mk.inj hab).2.2
  · intro e e' hne
    refine List.disjoint_left.mpr fun i hi hi' => ?_
    obtain ⟨r, -, rfl⟩ := List.mem_map.mp hi
    obtain ⟨r', -, hr'⟩ := List.mem_map.mp hi'
    exact hne (Identity.mk.inj hr').2.1.symm

/-- Summaries that are looked up in the load of all hosts are attached to what is recorded. -/
lemma attached_summaries (h : Unambiguous fs controlDir)
    (entries : List (String × HostAnswer)) :
    Attached fs controlDir endpoint entries (entries.flatMap fun e =>
      e.2.records.map (summarize endpoint e.1 (load fs controlDir .allHosts).statuses)) := by
  have hidentities : (entries.flatMap fun e => e.2.records.map
      (summarize endpoint e.1 (load fs controlDir .allHosts).statuses)).map (·.identity) =
        entries.flatMap fun e => e.2.records.map fun r => ⟨endpoint, e.1, r.name⟩ := by
    rw [List.map_flatMap]
    refine List.flatMap_congr fun e _ => ?_
    rw [List.map_map]
    rfl
  have hnodup := fun hdistinct => hidentities ▸ nodup_identities hdistinct
  refine ⟨hidentities, ?_, hnodup, ?_⟩
  · intro s hs c
    obtain ⟨e, -, hs⟩ := List.mem_flatMap.mp hs
    obtain ⟨r, -, rfl⟩ := List.mem_map.mp hs
    rw [connection_summarize]
    exact find?_load_eq_some_iff h
  · intro hdistinct i c _
    have hcount := List.nodup_iff_count_le_one.mp (hnodup hdistinct) i
    rw [List.count, List.countP_map] at hcount
    refine Nat.le_trans (List.countP_mono_left fun s _ hs => ?_) hcount
    simpa using (decide_eq_true_iff.mp hs).1

/-- **A recorded connection reaches exactly its instance.**  Let no two files of the control
directory record different connections of one instance, whatever else is in it.  Whatever hosts
fail, the instances of a fleet listing, in whatever order its tasks ran, and those of the listing of
one host are the ones that the hosts listed, each with the connection that is recorded for its
service, host and name, and with none if there is no such record.  If the hosts are distinct, and
the names on each, no identity is listed twice. -/
theorem attached_of_recorded (fs : FileSystem) (controlDir : String)
    (h : Unambiguous fs controlDir) :
    (∀ endpoint entries waits s result,
      Reachable (controlledFleet fs controlDir endpoint entries waits) s →
      s.phase = .finished result →
      ∃ listing, result = .ok listing ∧
        Attached fs controlDir endpoint entries listing.instances) ∧
    (∀ (service : Service) (hosts : List String), service.hosts = .ok hosts →
      ∃ listing, (listFleet service (load fs controlDir)).result = .ok listing ∧
        Attached fs controlDir service.endpoint
          (hosts.map fun host => (host, service.instances host)) listing.instances) ∧
    ∀ (service : Service) (host : String),
      (∀ task payload, service.instances host ≠ .crashed task payload) →
      ∃ listing, (listHost service (load fs controlDir) host).result = .ok listing ∧
        Attached fs controlDir service.endpoint [(host, service.instances host)]
          listing.instances := by
  refine ⟨?_, ?_, ?_⟩
  · intro endpoint entries waits s result hs hp
    obtain ⟨hreport, hresult, -⟩ := finished_of_run rfl hs hp
    refine ⟨s.report.listing, hresult, ?_⟩
    rw [instances_listing, hreport, instances_reportFleet]
    exact attached_summaries h entries
  · intro service hosts hhosts
    rw [listFleet, hhosts]
    refine ⟨_, rfl, ?_⟩
    rw [instances_listing, instances_reportFleet]
    exact attached_summaries h _
  · intro service host hanswer
    refine ⟨_, result_listHost hanswer, ?_⟩
    rw [instances_hostListing (ControlDir.restricts_load fs controlDir)]
    simpa using attached_summaries h [(host, service.instances host)]

/-- Two hosts with an instance of the same name. -/
def namesakes : Service where
  endpoint := "h"
  hosts := .ok ["g", "h"]
  instances _ := .listed [⟨"h", "Running", []⟩]

/-- Only one of the files holds a record. -/
lemma recorded_mixed_iff {i : Identity} {c : ConnectionStatus} :
    Recorded mixed "d" i c ↔ i = ⟨"h", "h", "h"⟩ ∧ c = ⟨⟨1, "h"⟩⟩ := by
  obtain ⟨hrecord, -⟩ := contributes_status_iff.mp contributes_mixed
  constructor
  · rintro ⟨entries, name, content, hentries, hmem, hname, htext, hdecode⟩
    obtain rfl : [.ok ".json", .ok "dir.json", .ok "h.json", .error (.system 5)] = entries :=
      Except.ok.inj hentries
    simp only [List.mem_cons, Except.ok.injEq, reduceCtorEq, List.not_mem_nil, or_false] at hmem
    rcases hmem with rfl | rfl | rfl
    · exact absurd hname (by decide)
    · cases htext
    · have hread := readRecord_eq_ok_iff.mpr ⟨content, htext, hdecode⟩
      exact ConnectionRecord.mk.inj (Except.ok.inj (hread.symm.trans hrecord))
  · rintro ⟨rfl, rfl⟩
    obtain ⟨content, htext, hdecode⟩ := readRecord_eq_ok_iff.mp hrecord
    exact ⟨_, "h.json", content, rfl, by simp, by decide, htext, hdecode⟩

/-- The connection that is recorded for one of the two instances is not taken for the other's. -/
theorem attached_of_recorded_namesakes : ∃ listing,
    (listFleet namesakes (load mixed "d")).result = .ok listing ∧
    listing.instances.map (·.identity.host) = ["g", "h"] ∧
    ∀ s ∈ listing.instances, s.connection = some ⟨⟨1, "h"⟩⟩ ↔ s.identity.host = "h" := by
  have hunambiguous : Unambiguous mixed "d" := by
    intro i c c' hc hc'
    rw [(recorded_mixed_iff.mp hc).2, (recorded_mixed_iff.mp hc').2]
  obtain ⟨listing, hlisting, hattached⟩ :=
    (attached_of_recorded mixed "d" hunambiguous).2.1 namesakes ["g", "h"] rfl
  refine ⟨listing, hlisting, ?_, fun s hs => ?_⟩
  · have hhosts := congrArg (List.map Identity.host) hattached.identities
    rw [List.map_map] at hhosts
    exact hhosts
  · have hidentities : listing.instances.map (·.identity) =
        [⟨"h", "g", "h"⟩, ⟨"h", "h", "h"⟩] := hattached.identities
    have hidentity : s.identity ∈ listing.instances.map (·.identity) := List.mem_map_of_mem hs
    rw [hidentities] at hidentity
    rw [hattached.connection_iff s hs, recorded_mixed_iff]
    rcases List.mem_pair.mp hidentity with h | h
    · simp [h]
    · simp [h]

end Inventory

end DeviceFleet
