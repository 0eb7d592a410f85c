/-
# Instants

Points in time to the nanosecond, before or after the epoch.
-/

namespace DeviceFleet

/-- The instant so many seconds after the epoch, or before it if negative, plus nanoseconds. -/
structure Instant where
  /-- Whole seconds. -/
  seconds : Int
  /-- Nanoseconds after the whole second. -/
  nanos : Nat
deriving DecidableEq, Repr

namespace Instant

/-- The nanoseconds since the epoch. -/
def sinceEpoch (t : Instant) : Int := t.seconds * 1000000000 + t.nanos

/-- Whether the first instant lies before the second. -/
def isBefore (s t : Instant) : Bool := s.sinceEpoch < t.sinceEpoch

end Instant

end DeviceFleet
