/-
# Summaries of instances

What callers are told about an instance: its identity, what its host says about it, and its
connection, if one is recorded.
-/
import DeviceFleet.Instance.Connection
import DeviceFleet.Instance.RemoteRecord

namespace DeviceFleet

open Json

/-- What is known about one instance. -/
structure Summary where
  /-- The instance. -/
  identity : Identity
  /-- Its state, in its host's words. -/
  status : String
  /-- Its displays, in its host's words. -/
  displays : List String
  /-- Its recorded connection. -/
  connection : Option ConnectionStatus
deriving DecidableEq, Repr

namespace Summary

/-- The summary of a record that the given host of the given service listed. -/
def ofRemote (endpoint host : String) (r : RemoteRecord) : Summary :=
  ⟨⟨endpoint, host, r.name⟩, r.status, r.displays, none⟩

/-- What the host says about the instance. -/
def remote (s : Summary) : RemoteRecord := ⟨s.identity.name, s.status, s.displays⟩

/-- The members of a written summary: those of the identity first, the connection last, and only
if there is one. -/
def members (s : Summary) : List Member :=
  s.identity.members ++ s.remote.details ++
    (s.connection.map fun c => ⟨"connection_status", c.write⟩).toList

/-- A written summary. -/
def write (s : Summary) : List Char := writeObject s.members

end Summary

end DeviceFleet
