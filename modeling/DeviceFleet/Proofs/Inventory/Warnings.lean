/-
# The warnings of a listing

A listing logs what goes wrong and reports it as well.  A load of connections that fails is one
warning, however many faults are taken over from it; after that, every host that failed or broke off
is one warning and one fault, and both say the same of it (`Matches`).  `Warned` says so of a whole
report.  It is shown for the report of one host, carried through the join of the reports of a fleet,
and so it holds of every run (`warnings_match`).
-/
import DeviceFleet.Proofs.Inventory.FleetListing
import Mathlib.Data.List.Forall2

namespace DeviceFleet.Inventory

open Text

variable {entries others : List (String × HostAnswer)} {r r' : Report}

/-- The warnings among events, in order. -/
def warnings (events : List LogEvent) : List LogEvent := events.filter fun e => e.level = .warn

/-- Whether the host listed its instances. -/
def HostAnswer.isListed : HostAnswer → Bool
  | .listed _ => true
  | .failed _ | .crashed .. => false

/-- The entries that failed or broke off, in order. -/
def troubled (entries : List (String × HostAnswer)) : List (String × HostAnswer) :=
  entries.filter fun e => !e.2.isListed

/-- A warning and a fault that tell of an entry: both name the host and end in the same text. -/
inductive Matches : String × HostAnswer → LogEvent × Fault → Prop
  /-- The text of the warning is that of the whole chain of the fault. -/
  | failed {host : String} {cause fault : Fault}
      (hfault : fault = .context ("list cvds on host " ++ quoted host) cause) :
      Matches (host, .failed cause)
        (⟨.warn, "listing cvds failed", [("host", .text host), ("error", .text fault.rendering)]⟩,
          fault)
  /-- The text of the warning is what the fault says after the host. -/
  | crashed {host text : String} {task : ℕ} {payload : Option String} {fault : Fault}
      (hfault : fault.rendering = "list cvds on host " ++ quoted host ++ ": " ++ text) :
      Matches (host, .crashed task payload)
        (⟨.warn, "listing task did not complete", [("host", .text host), ("error", .text text)]⟩,
          fault)

/-- The warning that tells of a failed load; `about` are the details before the text. -/
def loadWarning (about : List (String × LogValue)) (fault : Fault) : LogEvent :=
  ⟨.warn, "cannot load connection statuses", about ++ [("error", .text fault.rendering)]⟩

/-- The warnings and faults are those of the load and then, one by one, those of the entries that
failed or broke off. -/
def Warned (about : List (String × LogValue)) (loaded : Loaded)
    (entries : List (String × HostAnswer)) (events : List LogEvent) (faults : List Fault) : Prop :=
  ∃ told : List (LogEvent × Fault), List.Forall₂ Matches (troubled entries) told ∧
    warnings events = loaded.fault.toList.map (loadWarning about) ++ told.map Prod.fst ∧
    faults = loaded.faults ++ told.map Prod.snd

/-! ## The reports of hosts -/

/-- The warnings and faults of a report tell of the given entries. -/
def Tells (entries : List (String × HostAnswer)) (r : Report) : Prop :=
  ∃ told : List (LogEvent × Fault), List.Forall₂ Matches (troubled entries) told ∧
    warnings r.events = told.map Prod.fst ∧ r.faults = told.map Prod.snd

lemma tells_empty : Tells [] {} := ⟨[], .nil, rfl, rfl⟩

lemma Tells.append (h : Tells entries r) (h' : Tells others r') :
    Tells (entries ++ others) (r ++ r') := by
  obtain ⟨told, hmatches, hevents, hfaults⟩ := h
  obtain ⟨told', hmatches', hevents', hfaults'⟩ := h'
  refine ⟨told ++ told', ?_, ?_, ?_⟩
  · rw [troubled, List.filter_append]
    exact List.rel_append hmatches hmatches'
  · rw [Report.events_append, warnings, List.filter_append, List.map_append]
    exact congrArg₂ _ hevents hevents'
  · rw [Report.faults_append, List.map_append, hfaults, hfaults']

/-- The report of one host tells of it. -/
lemma tells_reportHost (endpoint : String) (statuses : Statuses) (host : String) (a : HostAnswer) :
    Tells [(host, a)] (reportHost endpoint statuses host a) := by
  cases a with
  | listed records => exact ⟨[], .nil, rfl, rfl⟩
  | failed cause => exact ⟨[_], .cons (.failed rfl) .nil, rfl, rfl⟩
  | crashed task payload => exact ⟨[(_, _)], .cons (.crashed rfl) .nil, rfl, rfl⟩

/-- The reports of a fleet, joined, tell of all its hosts. -/
lemma tells_join (endpoint : String) (statuses : Statuses)
    (entries : List (String × HostAnswer)) :
    Tells entries (Report.join (entries.map fun e => reportHost endpoint statuses e.1 e.2)) := by
  induction entries with
  | nil => exact tells_empty
  | cons e entries ih => exact (tells_reportHost endpoint statuses e.1 e.2).append ih

/-! ## Whole listings -/

lemma warnings_reportLoad (about : List (String × LogValue)) (fault : Option Fault) :
    warnings (reportLoad about fault).events = fault.toList.map (loadWarning about) := by
  cases fault <;> rfl

/-- A load, and then reports that tell of the entries. -/
lemma Tells.warned (h : Tells entries r) (about : List (String × LogValue)) (loaded : Loaded) :
    Warned about loaded entries (reportLoad about loaded.fault ++ r).events
      (reportLoad about loaded.fault ++ r).faults := by
  obtain ⟨told, hmatches, hevents, hfaults⟩ := h
  refine ⟨told, hmatches, ?_, ?_⟩
  · rw [Report.events_append, warnings, List.filter_append]
    exact congrArg₂ _ (warnings_reportLoad about loaded.fault) hevents
  · rw [Report.faults_append, faults_reportLoad, hfaults]

lemma warned_reportFleet (endpoint : String) (loaded : Loaded)
    (entries : List (String × HostAnswer)) :
    Warned [] loaded entries (reportFleet endpoint loaded entries).events
      (reportFleet endpoint loaded entries).faults := by
  -- the event between the load and the hosts is no warning
  have hopening : ∀ event : LogEvent, event.level = .debug → Tells [] (Report.ofEvent event) := by
    intro event hlevel
    refine ⟨[], .nil, ?_, rfl⟩
    simp [warnings, Report.ofEvent, hlevel]
  exact ((hopening _ rfl).append (tells_join endpoint loaded.statuses entries)).warned [] loaded

lemma exists_result_listHost {service : Service} {connections : Scope → Loaded} {host : String}
    (h : ∀ task payload, service.instances host ≠ .crashed task payload) :
    ∃ listing, (listHost service connections host).result = .ok listing ∧
      Warned [("host", .text host)] (connections (.host host)) [(host, service.instances host)]
        (listHost service connections host).events listing.faults := by
  have hwarned := (tells_reportHost service.endpoint (connections (.host host)).statuses host
    (service.instances host)).warned [("host", .text host)] (connections (.host host))
  rw [listHost]
  cases hanswer : service.instances host with
  | listed records =>
    rw [hanswer] at hwarned
    exact ⟨_, rfl, by rwa [faults_listing]⟩
  | failed fault =>
    rw [hanswer] at hwarned
    exact ⟨_, rfl, by rwa [faults_listing]⟩
  | crashed task payload => exact absurd hanswer (h task payload)

lemma HostAnswer.isListed_iff (a : HostAnswer) :
    a.isListed = true ↔ ∃ records, a = .listed records := by
  cases a <;> simp [isListed]

/-- Nothing is warned of exactly if nothing went wrong. -/
lemma Warned.eq_nil_iff {about : List (String × LogValue)} {loaded : Loaded}
    {events : List LogEvent} {faults : List Fault} (h : Warned about loaded entries events faults) :
    warnings events = [] ↔
      loaded.fault = none ∧ ∀ e ∈ entries, ∃ records, e.2 = .listed records := by
  obtain ⟨told, hmatches, hevents, -⟩ := h
  have htold : told = [] ↔ ∀ e ∈ entries, ∃ records, e.2 = .listed records := by
    rw [← List.length_eq_zero_iff, ← hmatches.length_eq, List.length_eq_zero_iff, troubled,
      List.filter_eq_nil_iff]
    refine forall₂_congr fun e _ => ?_
    rw [← HostAnswer.isListed_iff]
    simp
  rw [hevents, List.append_eq_nil_iff, List.map_eq_nil_iff, List.map_eq_nil_iff, htold,
    Option.toList_eq_nil_iff]

/-- **Warnings and reported faults correspond one to one.**  A fleet whose hosts are enumerated can
always come to an answer, and in every run that has answered, whatever the order in which its tasks
ended, the warnings are one for a failed load of connections and then, in the order of the
enumeration, one for each host that failed or broke off; the faults are those of the load and then,
in the same order, one for each of these hosts.  The warning and the fault of a host match: both
name it, and either the warning holds the whole text of the fault, or what the fault says after the
host.  The same holds of a host that is listed on its own, if it does not break off.  Nothing is
warned of exactly if nothing went wrong. -/
theorem warnings_match (f : Fleet) (hf : f.hosts = .ok entries) :
    (∀ s, Reachable f s → ∃ t result, Reaches f s t ∧ t.phase = .finished result) ∧
    (∀ s result, Reachable f s → s.phase = .finished result → ∃ listing, result = .ok listing ∧
      Warned [] (f.connections .allHosts) entries s.report.events listing.faults ∧
      (warnings s.report.events = [] ↔ (f.connections .allHosts).fault = none ∧
        ∀ e ∈ entries, ∃ records, e.2 = .listed records)) ∧
    ∀ (service : Service) (connections : Scope → Loaded) (host : String),
      (∀ task payload, service.instances host ≠ .crashed task payload) →
      ∃ listing, (listHost service connections host).result = .ok listing ∧
        Warned [("host", .text host)] (connections (.host host)) [(host, service.instances host)]
          (listHost service connections host).events listing.faults ∧
        (warnings (listHost service connections host).events = [] ↔
          (connections (.host host)).fault = none ∧
            ∃ records, service.instances host = .listed records) := by
  refine ⟨fun s hs => exists_finished hf hs, fun s result hs hp => ?_, ?_⟩
  · obtain ⟨hreport, hresult, -⟩ := finished_of_run hf hs hp
    have hwarned := warned_reportFleet f.endpoint (f.connections .allHosts) entries
    rw [← hreport] at hwarned
    exact ⟨_, hresult, by rwa [faults_listing], hwarned.eq_nil_iff⟩
  · intro service connections host hanswer
    obtain ⟨listing, hresult, hwarned⟩ := exists_result_listHost hanswer
    refine ⟨listing, hresult, hwarned, ?_⟩
    rw [hwarned.eq_nil_iff, List.forall_mem_singleton]

/-- Three hosts, of which one cannot be reached and one, with a quote in its name, breaks off.  The
load of connections failed with two faults. -/
def partlyDown : Fleet where
  endpoint := "svc"
  hosts := .ok [("a", .failed (.message "refused")), ("b", .listed []),
    ("c\"", .crashed 1 (some "overflow"))]
  connections _ :=
    { fault := some (.context "load" (.aggregate [.message "no file", .message "no access"])) }
  waits _ := none
  aggregates := by
    rintro scope fault ⟨⟩
    simp [Fault.root]

/-- The first of these hosts on its own. -/
def aloneDown : Service where
  endpoint := "svc"
  hosts := .ok ["a"]
  instances _ := .failed (.message "refused")

/-- The fleet warns three times and reports four faults, the host alone warns twice. -/
theorem warnings_match_partlyDown :
    (∃ s listing, Reachable partlyDown s ∧ s.phase = .finished (.ok listing) ∧
      (warnings s.report.events).length = 3 ∧ listing.faults.length = 4) ∧
    ∃ listing, (listHost aloneDown partlyDown.connections "a").result = .ok listing ∧
      (warnings (listHost aloneDown partlyDown.connections "a").events).length = 2 := by
  obtain ⟨hanswer, hfleet, hhost⟩ := warnings_match partlyDown rfl
  refine ⟨?_, ?_⟩
  · obtain ⟨s, result, hs, hp⟩ := hanswer {} .refl
    obtain ⟨listing, rfl, ⟨told, hmatches, hwarnings, hfaults⟩, -⟩ := hfleet s result hs hp
    have htold : told.length = 2 := hmatches.length_eq.symm
    refine ⟨s, listing, hs, hp, ?_, ?_⟩
    · rw [hwarnings, List.length_append, List.length_map, List.length_map, htold]
      rfl
    · rw [hfaults, List.length_append, List.length_map, htold]
      rfl
  · have hfailed : ∀ task payload, aloneDown.instances "a" ≠ .crashed task payload := by
      rintro task payload ⟨⟩
    obtain ⟨listing, hresult, ⟨told, hmatches, hwarnings, -⟩, -⟩ :=
      hhost aloneDown partlyDown.connections "a" hfailed
    refine ⟨listing, hresult, ?_⟩
    have htold : told.length = 1 := hmatches.length_eq.symm
    rw [hwarnings, List.length_append, List.length_map, List.length_map, htold]
    rfl

end DeviceFleet.Inventory
