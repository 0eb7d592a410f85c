/-
# Scopes of a load
-/

namespace DeviceFleet

/-- Which hosts a load of recorded connections covers. -/
inductive Scope where
  /-- Every host. -/
  | allHosts
  /-- One host. -/
  | host (name : String)
deriving DecidableEq, Repr

namespace Scope

/-- Whether a host is covered. -/
def includes : Scope → String → Bool
  | .allHosts, _ => true
  | .host name, h => name == h

end Scope

end DeviceFleet
