/-
# Process environments

What a process is told from outside: its variables, and the home directory that the account of the
user names.
-/

namespace DeviceFleet

/-- What the variables of a process hold; none is a variable that is not set. -/
abbrev Environment : Type := String → Option String

/-- The session of a user. -/
structure Session where
  /-- The variables. -/
  environment : Environment
  /-- The home directory that the account names, if there is an account. -/
  accountHome : Option String

/-- The home directory of the user: the one that the variables name, or that of the account; an
empty one counts as none. -/
def Session.home? (s : Session) : Option String :=
  match (s.environment "HOME").filter fun dir => !dir.isEmpty with
  | some dir => some dir
  | none => s.accountHome.filter fun dir => !dir.isEmpty

end DeviceFleet
