/-
# Identities of instances

An instance is known by the service that fronts it, the host it runs on and its name there.  The
identity is the key under which a remote listing and locally recorded connections meet.
-/
import DeviceFleet.Json.Record
import DeviceFleet.Json.Writer

namespace DeviceFleet

open Json

/-- Which instance is meant. -/
structure Identity where
  /-- The root of the service. -/
  endpoint : String
  /-- The host. -/
  host : String
  /-- The name on that host. -/
  name : String
deriving DecidableEq, Repr

namespace Identity

/-- The members of a written identity. -/
def members (i : Identity) : List Member :=
  [.text "service_root_endpoint" i.endpoint, .text "host" i.host, .text "name" i.name]

/-- A written identity. -/
def write (i : Identity) : List Char := writeObject i.members

/-- An identity of which some parts have been read. -/
structure Draft where
  /-- The root of the service. -/
  endpoint : Option String := none
  /-- The host. -/
  host : Option String := none
  /-- The name on that host. -/
  name : Option String := none

/-- How identities are read. -/
def schema : Schema Draft Identity where
  title := "struct Cvd"
  fields := [
    .of "service_root_endpoint" true textReader (·.endpoint) fun v d =>
      { d with endpoint := some v },
    .of "host" true textReader (·.host) fun v d => { d with host := some v },
    .of "name" true textReader (·.name) fun v d => { d with name := some v }]
  blank := {}
  finish d := ⟨d.endpoint.getD "", d.host.getD "", d.name.getD ""⟩

/-- Reads an identity. -/
def reader : Reader Identity := schema.reader

end Identity

end DeviceFleet
