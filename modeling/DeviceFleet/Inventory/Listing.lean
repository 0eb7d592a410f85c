/-
# Listing instances

One host is listed on its own; the fleet is listed with one task per host, all running at once,
whose reports are joined in the order of the hosts.  Connections are loaded once, before any host
is asked.  Whatever fails is reported beside the instances that were found.
-/
import DeviceFleet.Inventory.Report

namespace DeviceFleet.Inventory

/-- A service that fronts a fleet of hosts. -/
structure Service where
  /-- Its root. -/
  endpoint : String
  /-- The hosts it knows. -/
  hosts : Except Fault (List String)
  /-- How the listing of a host ends. -/
  instances : String → HostAnswer

/-- A call that a listing makes. -/
inductive Call where
  /-- Ask for all hosts. -/
  | listHosts
  /-- Load the recorded connections. -/
  | load (scope : Scope)
  /-- Ask a host for its instances. -/
  | listInstances (host : String)
deriving DecidableEq, Repr

/-- What a listing answers. -/
structure Listing where
  /-- The instances found. -/
  instances : List Summary
  /-- What went wrong. -/
  fault : Option Aggregate

/-- A report as an answer. -/
def Report.listing (r : Report) : Listing := ⟨r.instances, Aggregate.ofList? r.faults⟩

/-- A finished listing. -/
structure Outcome (α : Type) where
  /-- The answer. -/
  result : α
  /-- The calls made. -/
  calls : List Call
  /-- The events logged. -/
  events : List LogEvent

/-- A listing that broke off, with a text if it left one. -/
structure Crash where
  /-- The text. -/
  payload : Option String
deriving DecidableEq, Repr

/-- What the listing of one host has to tell besides its load of connections; a host that breaks
off takes the listing with it. -/
def reportOwnHost (endpoint : String) (statuses : Statuses) (host : String) :
    HostAnswer → Except Crash Report
  | .crashed _ payload => .error ⟨payload⟩
  | answer => .ok (reportHost endpoint statuses host answer)

/-- Lists the instances of one host. -/
def listHost (service : Service) (connections : Scope → Loaded) (host : String) :
    Outcome (Except Crash Listing) :=
  let loaded := connections (.host host)
  let before := reportLoad [("host", .text host)] loaded.fault
  let calls := [.load (.host host), .listInstances host]
  match reportOwnHost service.endpoint loaded.statuses host (service.instances host) with
  | .error crash => ⟨.error crash, calls, before.events⟩
  | .ok report => ⟨.ok (before ++ report).listing, calls, (before ++ report).events⟩

/-- What the listing of a fleet has to tell, given each host with how its listing ends. -/
def reportFleet (endpoint : String) (loaded : Loaded) (tasks : List (String × HostAnswer)) :
    Report :=
  reportLoad [] loaded.fault ++
    (Report.ofEvent ⟨.debug, "listing cvds across hosts", [("hosts", .count tasks.length)]⟩ ++
      Report.join (tasks.map fun task =>
        reportHost endpoint loaded.statuses task.1 task.2))

/-- Lists the instances of every host that the service knows. -/
def listFleet (service : Service) (connections : Scope → Loaded) :
    Outcome (Except Fault Listing) :=
  match service.hosts with
  | .error fault => ⟨.error (fault.note "error listing hosts"), [.listHosts], []⟩
  | .ok hosts =>
    let report := reportFleet service.endpoint (connections .allHosts)
      (hosts.map fun host => (host, service.instances host))
    ⟨.ok report.listing, [.listHosts, .load .allHosts] ++ hosts.map .listInstances,
      report.events⟩

end DeviceFleet.Inventory
