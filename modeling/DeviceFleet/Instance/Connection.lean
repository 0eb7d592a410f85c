/-
# Connections to instances

The state of the tunnel to a connected instance, and the record of it that a connection agent
leaves in a file.
-/
import DeviceFleet.Instance.Identity

namespace DeviceFleet

open Json

/-- The state of the debug-bridge tunnel to an instance. -/
structure AdbStatus where
  /-- The local port of the tunnel. -/
  port : UInt16
  /-- Its state, in the agent's words. -/
  state : String
deriving DecidableEq, Repr

/-- The recorded connection of an instance. -/
structure ConnectionStatus where
  /-- Its debug-bridge tunnel. -/
  adb : AdbStatus
deriving DecidableEq, Repr

/-- What the file of one connection holds. -/
structure ConnectionRecord where
  /-- The connected instance. -/
  identity : Identity
  /-- Its connection. -/
  status : ConnectionStatus
deriving DecidableEq, Repr

namespace AdbStatus

/-- A written tunnel state. -/
def write (a : AdbStatus) : List Char :=
  writeObject [⟨"port", writeNat a.port.toNat⟩, .text "state" a.state]

/-- A tunnel state of which some parts have been read. -/
structure Draft where
  /-- The local port. -/
  port : Option UInt16 := none
  /-- The state. -/
  state : Option String := none

/-- How tunnel states are read. -/
def schema : Schema Draft AdbStatus where
  title := "struct AdbStatus"
  fields := [
    .of "port" true portReader (·.port) fun v d => { d with port := some v },
    .of "state" true textReader (·.state) fun v d => { d with state := some v }]
  blank := {}
  finish d := ⟨d.port.getD 0, d.state.getD ""⟩

/-- Reads a tunnel state. -/
def reader : Reader AdbStatus := schema.reader

end AdbStatus

namespace ConnectionStatus

/-- A written connection. -/
def write (s : ConnectionStatus) : List Char := writeObject [⟨"adb", s.adb.write⟩]

/-- How connections are read; a draft is the tunnel state, once it has been read. -/
def schema : Schema (Option AdbStatus) ConnectionStatus where
  title := "struct ConnectionStatus"
  fields := [.of "adb" true AdbStatus.reader id fun v _ => some v]
  blank := none
  finish d := ⟨d.getD ⟨0, ""⟩⟩

/-- Reads a connection. -/
def reader : Reader ConnectionStatus := schema.reader

end ConnectionStatus

namespace ConnectionRecord

/-- A record of which some parts have been read. -/
structure Draft where
  /-- The connected instance. -/
  identity : Option Identity := none
  /-- Its connection. -/
  status : Option ConnectionStatus := none

/-- How records are read. -/
def schema : Schema Draft ConnectionRecord where
  title := "struct ConnectionRecord"
  fields := [
    .of "cvd" true Identity.reader (·.identity) fun v d => { d with identity := some v },
    .of "status" true ConnectionStatus.reader (·.status) fun v d => { d with status := some v }]
  blank := {}
  finish d := ⟨d.identity.getD ⟨"", "", ""⟩, d.status.getD ⟨⟨0, ""⟩⟩⟩

/-- Reads a record. -/
def reader : Reader ConnectionRecord := schema.reader

end ConnectionRecord

end DeviceFleet
