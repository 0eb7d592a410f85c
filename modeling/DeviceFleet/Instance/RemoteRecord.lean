/-
# Records of a host

What a host says about one of its instances.
-/
import DeviceFleet.Json.Record
import DeviceFleet.Json.Writer

namespace DeviceFleet

open Json

/-- An instance as its host lists it. -/
structure RemoteRecord where
  /-- Its name on the host. -/
  name : String
  /-- Its state, in the host's words. -/
  status : String
  /-- Its displays, in the host's words. -/
  displays : List String
deriving DecidableEq, Repr

namespace RemoteRecord

/-- The members of a written record besides its name. -/
def details (r : RemoteRecord) : List Member :=
  [.text "status" r.status, ⟨"displays", writeList (r.displays.map writeString)⟩]

/-- A written record. -/
def write (r : RemoteRecord) : List Char := writeObject (.text "name" r.name :: r.details)

/-- A record of which some parts have been read. -/
structure Draft where
  /-- Its name on the host. -/
  name : Option String := none
  /-- Its state. -/
  status : Option String := none
  /-- Its displays. -/
  displays : Option (List String) := none

/-- How records are read; the state and the displays may be missing. -/
def schema : Schema Draft RemoteRecord where
  title := "struct RemoteCvd"
  fields := [
    .of "name" true textReader (·.name) fun v d => { d with name := some v },
    .of "status" false textReader (·.status) fun v d => { d with status := some v },
    .of "displays" false (listReader textReader) (·.displays) fun v d =>
      { d with displays := some v }]
  blank := {}
  finish d := ⟨d.name.getD "", d.status.getD "", d.displays.getD []⟩

/-- Reads a record. -/
def reader : Reader RemoteRecord := schema.reader

end RemoteRecord

end DeviceFleet
