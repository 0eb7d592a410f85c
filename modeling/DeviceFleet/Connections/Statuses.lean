/-
# Recorded connections by instance
-/
import DeviceFleet.Connections.Scope
import DeviceFleet.Fault
import DeviceFleet.Instance.Connection

namespace DeviceFleet

/-- Connections by instance, at most one for each. -/
structure Statuses where
  /-- Each instance with its connection. -/
  entries : List (Identity × ConnectionStatus) := []
deriving Repr

namespace Statuses

/-- The connection of an instance. -/
def find? (s : Statuses) (i : Identity) : Option ConnectionStatus := s.entries.lookup i

/-- The connections with one more; an earlier one of the same instance gives way. -/
def insert (s : Statuses) (i : Identity) (c : ConnectionStatus) : Statuses :=
  ⟨(i, c) :: s.entries.filter fun entry => entry.1 != i⟩

/-- The connections of a list, the later ones winning. -/
def ofList (entries : List (Identity × ConnectionStatus)) : Statuses :=
  entries.foldl (fun s entry => s.insert entry.1 entry.2) {}

end Statuses

/-- What a load found: every connection that could be read, and what could not. -/
structure Loaded where
  /-- The connections. -/
  statuses : Statuses := {}
  /-- What could not be read. -/
  fault : Option Fault := none

end DeviceFleet
