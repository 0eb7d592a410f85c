/-
# One host and the fleet

A host can be listed on its own, with a load of its own connections, or with the fleet, with one
load for all hosts.  Both tell the same of it: what matters of a source of connections is that a
load of one host is the restriction of the load of all hosts (`Restricts`), as it is for the control
directory, and that the instances of a host are looked up under that host alone.
-/
import DeviceFleet.Proofs.Connections.Load
import DeviceFleet.Proofs.Inventory.FleetListing

namespace DeviceFleet

/-- Every load has the faults of the load of all hosts, and finds the same within its scope. -/
structure Restricts (connections : Scope → Loaded) : Prop where
  /-- The faults are the same. -/
  fault_eq : ∀ scope, (connections scope).fault = (connections .allHosts).fault
  /-- The same is found within the scope. -/
  find?_eq : ∀ scope i, scope.includes i.host = true →
    (connections scope).statuses.find? i = (connections .allHosts).statuses.find? i

lemma Restricts.faults_eq {connections : Scope → Loaded} (h : Restricts connections)
    (scope : Scope) : (connections scope).faults = (connections .allHosts).faults := by
  rw [Loaded.faults, h.fault_eq, Loaded.faults]

lemma ControlDir.restricts_load (fs : FileSystem) (controlDir : String) :
    Restricts (ControlDir.load fs controlDir) where
  fault_eq scope := ControlDir.fault_load_eq_of_scope ..
  find?_eq scope i hi := by rw [ControlDir.find?_load, if_pos hi]

namespace Inventory

variable {connections : Scope → Loaded} {service : Service} {hosts : List String}

/-- The instances of a host are found alike in its own load and in the load of all hosts. -/
lemma summarize_eq (h : Restricts connections) (endpoint host : String) (r : RemoteRecord) :
    summarize endpoint host (connections (.host host)).statuses r =
      summarize endpoint host (connections .allHosts).statuses r := by
  -- a record is looked up under the host that listed it, which is in the scope of its own load
  have hfind := h.find?_eq (.host host) ⟨endpoint, host, r.name⟩ (beq_self_eq_true host)
  exact congrArg (fun c => Summary.mk ⟨endpoint, host, r.name⟩ r.status r.displays c) hfind

/-- What the listing of one host tells, if it does not break off. -/
def hostListing (service : Service) (connections : Scope → Loaded) (host : String) : Listing :=
  (reportLoad [("host", .text host)] (connections (.host host)).fault ++
    reportHost service.endpoint (connections (.host host)).statuses host
      (service.instances host)).listing

lemma result_listHost {host : String}
    (h : ∀ task payload, service.instances host ≠ .crashed task payload) :
    (listHost service connections host).result = .ok (hostListing service connections host) := by
  rw [listHost]
  cases hanswer : service.instances host with
  | listed records => simp only [reportOwnHost, hostListing, hanswer]
  | failed fault => simp only [reportOwnHost, hostListing, hanswer]
  | crashed task payload => exact absurd hanswer (h task payload)

lemma instances_hostListing (h : Restricts connections) (host : String) :
    (hostListing service connections host).instances =
      (service.instances host).records.map
        (summarize service.endpoint host (connections .allHosts).statuses) := by
  have hinstances : (hostListing service connections host).instances =
      (reportLoad [("host", .text host)] (connections (.host host)).fault ++
        reportHost service.endpoint (connections (.host host)).statuses host
          (service.instances host)).instances := rfl
  rw [hinstances, Report.instances_append, instances_reportLoad, instances_reportHost,
    List.nil_append]
  exact List.map_congr_left fun r _ => summarize_eq h ..

lemma faults_hostListing (h : Restricts connections) (host : String) :
    (hostListing service connections host).faults =
      (connections .allHosts).faults ++ ((service.instances host).fault? host).toList := by
  rw [hostListing, faults_listing, Report.faults_append, faults_reportLoad, faults_reportHost,
    h.faults_eq]

/-- **The two listings agree.**  Over the control directory, whatever is in it, a fleet whose hosts
can be enumerated lists the instances that its hosts list on their own, in the order of the
enumeration.  Each host on its own tells of the faults of the load and of one further fault at most;
the fleet tells of the faults of the load once, followed by the further ones in that order. -/
theorem listFleet_agrees (service : Service) (fs : FileSystem) (controlDir : String)
    {hosts : List String} (hhosts : service.hosts = .ok hosts)
    (hanswers : ∀ host task payload, service.instances host ≠ .crashed task payload) :
    ∃ (fleet : Listing) (single : String → Listing) (taken : List Fault)
      (further : String → Option Fault),
      (listFleet service (ControlDir.load fs controlDir)).result = .ok fleet ∧
      (∀ host, (listHost service (ControlDir.load fs controlDir) host).result =
        .ok (single host)) ∧
      (∀ scope, (ControlDir.load fs controlDir scope).faults = taken) ∧
      fleet.instances = hosts.flatMap (fun host => (single host).instances) ∧
      (∀ host, (single host).faults = taken ++ (further host).toList) ∧
      fleet.faults = taken ++ hosts.filterMap further := by
  have hrestricts := ControlDir.restricts_load fs controlDir
  have hfleet : (listFleet service (ControlDir.load fs controlDir)).result =
      .ok (reportFleet service.endpoint (ControlDir.load fs controlDir .allHosts)
        (hosts.map fun host => (host, service.instances host))).listing := by
    rw [listFleet, hhosts]
  refine ⟨_, hostListing service (ControlDir.load fs controlDir),
    (ControlDir.load fs controlDir .allHosts).faults, fun host =>
      (service.instances host).fault? host, hfleet, fun host => result_listHost (hanswers host),
    hrestricts.faults_eq, ?_, faults_hostListing hrestricts, ?_⟩
  · have hinstances : ∀ r : Report, r.listing.instances = r.instances := fun r => rfl
    rw [hinstances, instances_reportFleet, List.flatMap_map]
    exact List.flatMap_congr fun host _ => (instances_hostListing hrestricts host).symm
  · rw [faults_listing, faults_reportFleet, List.filterMap_map]
    rfl

/-- A service that enumerates one host twice, and between a host that cannot be listed. -/
def fronted : Service where
  endpoint := "h"
  hosts := .ok ["h", "g", "h"]
  instances host :=
    if host = "h" then .listed [⟨"h", "Running", []⟩] else .failed (.message "unreachable")

/-- The fleet lists the instances of the host twice, and tells of the load once. -/
theorem listFleet_agrees_fronted :
    ∃ (fleet : Listing) (single : String → Listing) (taken further : List Fault),
    (listFleet fronted (ControlDir.load ControlDir.mixed "d")).result = .ok fleet ∧
    (∀ host, (listHost fronted (ControlDir.load ControlDir.mixed "d") host).result =
      .ok (single host)) ∧
    fleet.instances =
      (single "h").instances ++ ((single "g").instances ++ (single "h").instances) ∧
    (single "g").faults = taken ++ further ∧ further.length ≤ 1 ∧
    fleet.faults.length ≤ taken.length + 3 := by
  have hanswers : ∀ host task payload, fronted.instances host ≠ .crashed task payload := by
    intro host task payload
    by_cases h : host = "h"
    · simp [fronted, h]
    · simp [fronted, h]
  obtain ⟨fleet, single, taken, further, hfleet, hsingle, -, hinstances, hfaults, hfleetFaults⟩ :=
    listFleet_agrees fronted ControlDir.mixed "d" rfl hanswers
  refine ⟨fleet, single, taken, (further "g").toList, hfleet, hsingle, ?_, hfaults "g", ?_, ?_⟩
  · rw [hinstances]
    simp
  · cases further "g" <;> simp
  · rw [hfleetFaults, List.length_append]
    exact Nat.add_le_add_left (List.length_filterMap_le ..) _

end Inventory

end DeviceFleet
