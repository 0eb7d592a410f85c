/-
# What a fleet listing answers

A run of the steps in `Schedule.lean` may interleave its tasks in any way, yet its answer is settled
before it begins.  The main statement `result_of_run` spells the answer out: the instances of the
hosts that listed them, in the order of the enumeration, and beside them what the load of
connections had to tell, followed by one fault for each task that failed or broke off.
-/
import DeviceFleet.Proofs.Connections.Statuses
import DeviceFleet.Proofs.Fault.Notes
import DeviceFleet.Proofs.Inventory.Schedule
import Mathlib.Data.List.Basic

namespace DeviceFleet.Inventory

/-- The records of a host that listed its instances. -/
def HostAnswer.records : HostAnswer → List RemoteRecord
  | .listed records => records
  | .failed _ | .crashed .. => []

/-- The fault that the listing of a host adds to a report, if it did not end well. -/
def HostAnswer.fault? (host : String) : HostAnswer → Option Fault
  | .listed _ => none
  | .failed fault => some (.context (hostNote host) fault)
  | .crashed task payload => some (.message s!"{hostNote host}: {crashText task payload}")

/-- The faults that a listing tells of. -/
def Listing.faults (l : Listing) : List Fault :=
  match l.fault with
  | none => []
  | some aggregate => aggregate.members

lemma instances_listing (r : Report) : r.listing.instances = r.instances := rfl

lemma faults_listing (r : Report) : r.listing.faults = r.faults := by
  by_cases h : r.faults = []
  · have hfault : r.listing.fault = none := dif_pos h
    rw [Listing.faults, hfault, h]
  · have hfault : r.listing.fault = some ⟨r.faults, h⟩ := dif_neg h
    rw [Listing.faults, hfault]

lemma fault_listing_eq_none_iff (r : Report) : r.listing.fault = none ↔ r.faults = [] := by
  simp [Report.listing, Aggregate.ofList?]

lemma HostAnswer.fault?_eq_none_iff (host : String) (a : HostAnswer) :
    a.fault? host = none ↔ ∃ records, a = .listed records := by
  cases a with
  | listed records => simp [fault?]
  | failed fault => simp [fault?]
  | crashed task payload => simp [fault?]

/-! ## The report of a host, of a load and of a fleet -/

lemma instances_reportHost (endpoint : String) (statuses : Statuses) (host : String)
    (a : HostAnswer) :
    (reportHost endpoint statuses host a).instances =
      a.records.map (summarize endpoint host statuses) := by
  cases a <;> rfl

lemma faults_reportHost (endpoint : String) (statuses : Statuses) (host : String)
    (a : HostAnswer) :
    (reportHost endpoint statuses host a).faults = (a.fault? host).toList := by
  cases a <;> rfl

lemma instances_reportLoad (about : List (String × LogValue)) (fault : Option Fault) :
    (reportLoad about fault).instances = [] := by
  cases fault <;> rfl

lemma faults_reportLoad (about : List (String × LogValue)) (loaded : Loaded) :
    (reportLoad about loaded.fault).faults = loaded.faults := by
  rw [Loaded.faults]
  cases loaded.fault with
  | none => rfl
  | some f =>
    rw [Option.toList_some, List.flatMap_singleton]
    rfl

variable (endpoint : String) (loaded : Loaded) (entries : List (String × HostAnswer))

/-- A fleet is told of by its opening and then by one report for each entry. -/
lemma reportFleet_eq :
    reportFleet endpoint loaded entries = openingReport loaded entries.length ++
      Report.join (entries.map fun e => reportHost endpoint loaded.statuses e.1 e.2) := by
  rw [openingReport, Report.append_assoc]
  rfl

lemma instances_reportFleet :
    (reportFleet endpoint loaded entries).instances =
      entries.flatMap fun e => e.2.records.map (summarize endpoint e.1 loaded.statuses) := by
  rw [reportFleet, Report.instances_append, Report.instances_append, Report.instances_join,
    instances_reportLoad, List.nil_append, List.flatMap_map]
  simp only [instances_reportHost]
  rfl

lemma faults_reportFleet :
    (reportFleet endpoint loaded entries).faults =
      loaded.faults ++ entries.filterMap fun e => e.2.fault? e.1 := by
  rw [reportFleet, Report.faults_append, Report.faults_append, Report.faults_join,
    faults_reportLoad, List.flatMap_map, List.filterMap_eq_flatMap_toList]
  simp only [faults_reportHost]
  rfl

variable {endpoint loaded entries}

/-- Nothing is told of exactly if nothing went wrong. -/
lemma faults_reportFleet_eq_nil_iff
    (h : ∀ fault, loaded.fault = some fault → fault.root ≠ .aggregate []) :
    (reportFleet endpoint loaded entries).faults = [] ↔
      loaded.fault = none ∧ ∀ e ∈ entries, ∃ records, e.2 = .listed records := by
  rw [faults_reportFleet, List.append_eq_nil_iff, List.filterMap_eq_nil_iff]
  refine and_congr ?_ (forall₂_congr fun e _ => HostAnswer.fault?_eq_none_iff e.1 e.2)
  rw [Loaded.faults]
  cases hload : loaded.fault with
  | none => simp
  | some fault => simpa using Fault.flattened_ne_nil (h fault hload)

/-! ## Runs -/

variable {f : Fleet}

/-- A run that has answered has told of the load and of every entry, and has joined every task. -/
lemma finished_of_run (hf : f.hosts = .ok entries) {s : State} {result : Except Fault Listing}
    (h : Reachable f s) (hp : s.phase = .finished result) :
    s.report = reportFleet f.endpoint (f.connections .allHosts) entries ∧
      result = .ok s.report.listing ∧
      s.tasks.map Task.entry = entries ∧ ∀ task ∈ s.tasks, task.stage = .ended := by
  have hagrees := (invariant_of_reachable hf h).agrees
  simp only [Agrees, hp] at hagrees
  obtain ⟨hentries, hjoined, ⟨-, hreport⟩, hresult⟩ := hagrees
  refine ⟨by rw [hreport, reportFleet_eq], hresult, hentries, fun task htask => ?_⟩
  obtain ⟨i, hi⟩ := List.mem_iff_getElem?.mp htask
  exact hjoined i task (List.getElem?_eq_some_iff.mp hi).1 hi

/-- A run that has answered has made the coordinator's calls and then one for each entry. -/
lemma calls_of_run (hf : f.hosts = .ok entries) {s : State} {result : Except Fault Listing}
    (h : Reachable f s) (hp : s.phase = .finished result) :
    ∃ made, s.calls = [.listHosts, .load .allHosts] ++ made ∧
      made.Perm (entries.map fun e => .listInstances e.1) := by
  obtain ⟨-, -, hentries, hended⟩ := finished_of_run hf h hp
  obtain ⟨made, hcalls, hperm⟩ := (invariant_of_reachable hf h).calls
  refine ⟨made, by rw [hcalls, hp]; rfl, ?_⟩
  have hone : s.tasks.flatMap Task.calls =
      s.tasks.map fun t => Call.listInstances t.entry.1 := by
    rw [List.map_eq_flatMap]
    refine List.flatMap_congr fun task htask => ?_
    simp [Task.calls, hended task htask]
  rw [hone] at hperm
  rw [← hentries, List.map_map]
  exact hperm

/-- **A run answers as `listFleet` does**, makes the same calls up to order, and logs the same. -/
theorem listFleet_of_run {service : Service} {hosts : List String}
    (hhosts : service.hosts = .ok hosts) (hendpoint : f.endpoint = service.endpoint)
    (hf : f.hosts = .ok (hosts.map fun host => (host, service.instances host))) {s : State}
    {result : Except Fault Listing} (h : Reachable f s) (hp : s.phase = .finished result) :
    result = (listFleet service f.connections).result ∧
      s.calls.Perm (listFleet service f.connections).calls ∧
      s.report.events = (listFleet service f.connections).events := by
  obtain ⟨hreport, hresult, -⟩ := finished_of_run hf h hp
  obtain ⟨made, hcalls, hmade⟩ := calls_of_run hf h hp
  rw [hendpoint] at hreport
  rw [listFleet, hhosts]
  refine ⟨?_, ?_, ?_⟩
  · rw [hresult, hreport]
  · rw [hcalls]
    refine List.Perm.append_left _ ?_
    rwa [List.map_map] at hmade
  · rw [hreport]

/-- **The answer of a fleet listing does not depend on its schedule and loses nothing.**  A listing
whose hosts are enumerated can always come to an answer.  Every run that has answered gives the
instances of exactly the hosts that listed them, in the order of the enumeration and each in the
order of its host; the faults are what the load of connections had to tell, followed by one for
each entry that failed or broke off; there is none exactly if nothing went wrong; and besides the
coordinator's calls there was one for each entry. -/
theorem result_of_run (f : Fleet) {entries : List (String × HostAnswer)}
    (hf : f.hosts = .ok entries) :
    (∀ s, Reachable f s → ∃ t result, Reaches f s t ∧ t.phase = .finished result) ∧
    ∀ s result, Reachable f s → s.phase = .finished result →
      ∃ listing taken made, result = .ok listing ∧
        listing = (reportFleet f.endpoint (f.connections .allHosts) entries).listing ∧
        listing.instances = (entries.flatMap fun e => e.2.records.map fun r =>
          ⟨⟨f.endpoint, e.1, r.name⟩, r.status, r.displays,
            (f.connections .allHosts).statuses.find? ⟨f.endpoint, e.1, r.name⟩⟩) ∧
        ((f.connections .allHosts).fault = none → taken = []) ∧
        (∀ fault, (f.connections .allHosts).fault = some fault → fault.Unpacks taken) ∧
        listing.faults = taken ++ entries.filterMap (fun e => e.2.fault? e.1) ∧
        (listing.fault = none ↔ (f.connections .allHosts).fault = none ∧
          ∀ e ∈ entries, ∃ records, e.2 = .listed records) ∧
        s.calls = [.listHosts, .load .allHosts] ++ made ∧
        made.Perm (entries.map fun e => .listInstances e.1) := by
  refine ⟨fun s hs => exists_finished hf hs, fun s result hs hp => ?_⟩
  obtain ⟨made, hcalls, hmade⟩ := calls_of_run hf hs hp
  obtain ⟨hreport, hresult, -⟩ := finished_of_run hf hs hp
  rw [hreport] at hresult
  refine ⟨_, (f.connections .allHosts).faults, made, hresult, rfl, ?_, ?_, ?_, ?_, ?_, hcalls,
    hmade⟩
  · exact instances_reportFleet ..
  · intro hnone
    rw [Loaded.faults, hnone]
    rfl
  · intro fault hsome
    rw [Loaded.faults, hsome, Option.toList_some, List.flatMap_singleton]
    exact fault.unpacks_flattened
  · rw [faults_listing, faults_reportFleet]
  · rw [fault_listing_eq_none_iff]
    exact faults_reportFleet_eq_nil_iff (f.aggregates .allHosts)

/-- One host, enumerated twice: its listing ends well once and breaks off once, and each waits for
the host to be called.  The load of connections found two faults. -/
def twice : Fleet where
  endpoint := "svc"
  hosts := .ok [("h", .listed [⟨"a", "Running", []⟩]), ("h", .crashed 1 none)]
  connections _ := { fault := some (.context "load" (.aggregate [.message "x", .message "y"])) }
  waits host := some host
  aggregates := by
    rintro scope fault ⟨⟩
    simp [Fault.root]

/-- A run in which the first task is called before the second is spawned and ends after it. -/
theorem result_of_run_twice : ∃ s listing, Reachable twice s ∧
    s.phase = .finished (.ok listing) ∧ listing.instances.map (·.identity.name) = ["a"] ∧
    listing.faults.length = 3 ∧ listing.fault ≠ none ∧ s.calls.length = 4 := by
  have hreleased : ∀ s, .listInstances "h" ∈ s.calls → Released twice s "h" := by
    rintro s hs other ⟨⟩ - - -
    exact hs
  have hrun : Reachable twice _ :=
    Relation.ReflTransGen.refl
      |>.tail (.enumerate rfl rfl)
      |>.tail (.load rfl)
      |>.tail (.spawn rfl)
      |>.tail (.call (i := 0) rfl rfl)
      |>.tail (.spawn rfl)
      |>.tail (.turn rfl)
      |>.tail (.call (i := 1) rfl rfl)
      -- the second task ends before the first
      |>.tail (.answer (i := 1) rfl rfl (hreleased _ (by decide)))
      |>.tail (.answer (i := 0) rfl rfl (hreleased _ (by decide)))
      |>.tail (.join rfl rfl rfl)
      |>.tail (.join rfl rfl rfl)
      |>.tail (.finish rfl rfl)
  obtain ⟨listing, taken, made, hresult, -, hinstances, -, htaken, hfaults, hnone, hcalls, hmade⟩ :=
    (result_of_run twice rfl).2 _ _ hrun rfl
  refine ⟨_, listing, hrun, congrArg Phase.finished hresult, ?_, ?_, ?_, ?_⟩
  · rw [hinstances]
    rfl
  · rw [hfaults, (htaken _ rfl).eq_flattened]
    rfl
  · rw [Ne, hnone]
    simp [twice]
  · rw [hcalls, List.length_append, hmade.length_eq]
    rfl

end DeviceFleet.Inventory
