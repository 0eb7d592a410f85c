/-
# What a listing says of a failed load

A load of connections that fails does not keep the hosts from being listed, and its fault becomes a
part of the error of the listing.  `Says` tells how much of it is left in the text of that error:
everything that the fault carries, except that the notes around an aggregate are left out, since the
members take its place.  It holds of every run of a fleet listing and of the listing of one host
(`says_of_failedLoad`).  That notes around an aggregate may be lost is shown for both
(`not_forall_carried_occurs`).
-/
import DeviceFleet.Proofs.Fault.Carried
import DeviceFleet.Proofs.Inventory.Agreement

namespace DeviceFleet.Inventory

open Text

variable {entries : List (String × HostAnswer)} {fault : Fault}

/-- What an error says of a load that failed with the fault, and of the hosts that were listed. -/
structure Says (error : Aggregate) (fault : Fault) (entries : List (String × HostAnswer)) :
    Prop where
  /-- What the fault carries below its outermost notes occurs in the text. -/
  below : ∀ text, fault.root.Carries text → Occurs text error.text
  /-- So do these notes, if they are not around an aggregate. -/
  notes : (∀ members, fault.root ≠ .aggregate members) →
    ∀ text, fault.Carries text → Occurs text error.text
  /-- The members of an aggregate take its place, with no trace of the notes around it; behind them
  there are only the faults of the hosts. -/
  members : ∀ members, fault.root = .aggregate members →
    error.members = members ++ entries.filterMap fun e => e.2.fault? e.1

/-- An error says so if it consists of what is taken over from the fault, and then of the faults of
the hosts. -/
lemma says_of_members {error : Aggregate}
    (h : error.members = fault.flattened ++ entries.filterMap fun e => e.2.fault? e.1) :
    Says error fault entries := by
  have htold : ∀ text, (∃ m ∈ fault.flattened, m.Carries text) → Occurs text error.text := by
    rintro text ⟨m, hm, hcarries⟩
    refine Aggregate.occurs_text ⟨m, ?_, hcarries⟩
    rw [h]
    exact List.mem_append_left _ hm
  refine ⟨?_, ?_, ?_⟩
  · intro text hcarries
    exact htold text hcarries.exists_flattened_of_root
  · intro hroot text hcarries
    exact htold text (hcarries.exists_flattened hroot)
  · intro members hroot
    rw [h, Fault.flattened_of_root hroot]

/-- A report that takes the fault over, and then those of the hosts, ends in such an error. -/
lemma exists_says {r : Report} (hfault : fault.root ≠ .aggregate [])
    (hr : r.faults = fault.flattened ++ entries.filterMap fun e => e.2.fault? e.1) :
    ∃ error, r.listing.fault = some error ∧ Says error fault entries := by
  have hne : r.faults ≠ [] := by
    rw [hr]
    exact List.append_ne_nil_of_left_ne_nil (Fault.flattened_ne_nil hfault) _
  exact ⟨⟨r.faults, hne⟩, dif_neg hne, says_of_members hr⟩

lemma faults_eq_flattened {loaded : Loaded} (h : loaded.fault = some fault) :
    loaded.faults = fault.flattened := by
  rw [Loaded.faults, h, Option.toList_some, List.flatMap_singleton]

lemma exists_says_of_run {f : Fleet} (hf : f.hosts = .ok entries)
    (hfault : (f.connections .allHosts).fault = some fault) {s : State}
    {result : Except Fault Listing} (h : Reachable f s) (hp : s.phase = .finished result) :
    ∃ listing error, result = .ok listing ∧ listing.fault = some error ∧
      Says error fault entries := by
  obtain ⟨hreport, hresult, -⟩ := finished_of_run hf h hp
  have hfaults : s.report.faults =
      fault.flattened ++ entries.filterMap fun e => e.2.fault? e.1 := by
    rw [hreport, faults_reportFleet, faults_eq_flattened hfault]
  obtain ⟨error, herror, hsays⟩ := exists_says (f.aggregates .allHosts fault hfault) hfaults
  exact ⟨_, error, hresult, herror, hsays⟩

lemma exists_says_of_host {service : Service} {connections : Scope → Loaded} {host : String}
    (hfault : (connections (.host host)).fault = some fault) (hroot : fault.root ≠ .aggregate [])
    (hanswer : ∀ task payload, service.instances host ≠ .crashed task payload) :
    ∃ listing error, (listHost service connections host).result = .ok listing ∧
      listing.fault = some error ∧ Says error fault [(host, service.instances host)] := by
  have hfaults : (reportLoad [("host", .text host)] (connections (.host host)).fault ++
      reportHost service.endpoint (connections (.host host)).statuses host
        (service.instances host)).faults =
      fault.flattened ++ [(host, service.instances host)].filterMap fun e => e.2.fault? e.1 := by
    rw [Report.faults_append, faults_reportLoad, faults_reportHost, faults_eq_flattened hfault,
      List.filterMap_eq_flatMap_toList, List.flatMap_singleton]
  obtain ⟨error, herror, hsays⟩ := exists_says hroot hfaults
  exact ⟨_, error, result_listHost hanswer, herror, hsays⟩

/-- **What is left of a failed load in the error of a listing.**  A fleet whose hosts are enumerated
can always come to an answer, and every run that has answered, however its hosts were listed, has an
error that says of the load whatever its fault carries: the notes at any depth, and the whole chains
of all faults that are no aggregates.  Left out are only the notes around an aggregate, which leave
no trace, since its members take its place.  The same holds of a host that is listed on its own, if
it does not break off. -/
theorem says_of_failedLoad (f : Fleet) (hf : f.hosts = .ok entries) :
    (∀ s, Reachable f s → ∃ t result, Reaches f s t ∧ t.phase = .finished result) ∧
    (∀ fault s result, (f.connections .allHosts).fault = some fault → Reachable f s →
      s.phase = .finished result → ∃ listing error, result = .ok listing ∧
        listing.fault = some error ∧ Says error fault entries) ∧
    ∀ (service : Service) (host : String) fault, (f.connections (.host host)).fault = some fault →
      (∀ task payload, service.instances host ≠ .crashed task payload) →
      ∃ listing error, (listHost service f.connections host).result = .ok listing ∧
        listing.fault = some error ∧ Says error fault [(host, service.instances host)] := by
  refine ⟨fun s hs => exists_finished hf hs, fun fault s result hfault hs hp => ?_,
    fun service host fault hfault hanswer => ?_⟩
  · exact exists_says_of_run hf hfault hs hp
  · exact exists_says_of_host hfault (f.aggregates _ fault hfault) hanswer

/-- Two hosts, of which one breaks off.  The load of connections failed with an aggregate under a
note, inside of an aggregate, and with a file that is not there. -/
def layered : Fleet where
  endpoint := "svc"
  hosts := .ok [("a", .crashed 1 none), ("b", .listed [])]
  connections _ :=
    { fault := some (.aggregate [.context "scan" (.aggregate [.message "torn"]),
        .context "read" (.io .notFound)]) }
  waits _ := none
  aggregates := by
    rintro scope fault ⟨⟩
    simp [Fault.root]

/-- The note inside of the aggregate and the chain of the file are left in the error of the fleet,
and in that of a host on its own. -/
theorem says_of_failedLoad_layered :
    (∃ s listing error, Reachable layered s ∧ s.phase = .finished (.ok listing) ∧
      listing.fault = some error ∧ Occurs "scan" error.text ∧
      Occurs "read: No such file or directory (os error 2)" error.text) ∧
    ∃ listing error, (listHost fronted layered.connections "h").result = .ok listing ∧
      listing.fault = some error ∧ Occurs "scan" error.text := by
  obtain ⟨hanswer, hfleet, hhost⟩ := says_of_failedLoad layered rfl
  have hscan : ∀ others, (Fault.aggregate (.context "scan" (.aggregate [.message "torn"]) ::
      others)).Carries "scan" := fun others => .member List.mem_cons_self (.note _ _)
  refine ⟨?_, ?_⟩
  · obtain ⟨s, result, hs, hp⟩ := hanswer {} .refl
    obtain ⟨listing, error, rfl, herror, hsays⟩ := hfleet _ s result rfl hs hp
    have hread : (Fault.context "read" (.io .notFound)).Carries _ :=
      .chain fun members hroot => by simp [Fault.root] at hroot
    refine ⟨s, listing, error, hs, hp, herror, hsays.below _ (hscan _), hsays.below _ ?_⟩
    exact .member (List.mem_cons_of_mem _ List.mem_cons_self) hread
  · have hanswer : ∀ task payload, fronted.instances "h" ≠ .crashed task payload := by
      rintro task payload ⟨⟩
    obtain ⟨listing, error, hresult, herror, hsays⟩ := hhost fronted "h" _ rfl hanswer
    exact ⟨listing, error, hresult, herror, hsays.below _ (hscan _)⟩

/-! ## What is lost -/

/-- A load that failed with an aggregate under a note. -/
def notedLoad : Loaded :=
  { fault := some (.context "load connections of site A"
      (.aggregate [.message "no file", .message "no access"])) }

/-- A service with one host, which has no instances. -/
def idle : Service where
  endpoint := "svc"
  hosts := .ok ["h"]
  instances _ := .listed []

/-- The note does not occur in the text of the members. -/
lemma not_occurs_of_members {error : Aggregate}
    (h : error.members = [.message "no file", .message "no access"]) :
    ¬ Occurs "load connections of site A" error.text := by
  rw [Aggregate.text, h]
  decide +kernel

/-- **A note around an aggregate may be lost**, when one host is listed and when the fleet is. -/
theorem not_forall_carried_occurs :
    (¬ ∀ (service : Service) (connections : Scope → Loaded) (host : String) (fault : Fault)
      (text : String), (∀ task payload, service.instances host ≠ .crashed task payload) →
      (connections (.host host)).fault = some fault → fault.root ≠ .aggregate [] →
      fault.Carries text → ∃ listing error,
        (listHost service connections host).result = .ok listing ∧ listing.fault = some error ∧
          Occurs text error.text) ∧
    ¬ ∀ (service : Service) (connections : Scope → Loaded) (hosts : List String) (fault : Fault)
      (text : String), service.hosts = .ok hosts →
      (connections .allHosts).fault = some fault → fault.root ≠ .aggregate [] →
      fault.Carries text → ∃ listing error,
        (listFleet service connections).result = .ok listing ∧ listing.fault = some error ∧
          Occurs text error.text := by
  refine ⟨fun h => ?_, fun h => ?_⟩
  · obtain ⟨listing, error, hresult, herror, hoccurs⟩ := h idle (fun _ => notedLoad) "h" _ _
      (by rintro task payload ⟨⟩) rfl (by simp) (.note _ _)
    obtain rfl := Except.ok.inj hresult
    obtain rfl := Option.some.inj herror
    exact not_occurs_of_members rfl hoccurs
  · obtain ⟨listing, error, hresult, herror, hoccurs⟩ := h idle (fun _ => notedLoad) ["h"] _ _
      rfl rfl (by simp) (.note _ _)
    obtain rfl := Except.ok.inj hresult
    obtain rfl := Option.some.inj herror
    exact not_occurs_of_members rfl hoccurs

end DeviceFleet.Inventory
