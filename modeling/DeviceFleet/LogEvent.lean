/-
# Log events
-/

namespace DeviceFleet

/-- How much an event matters. -/
inductive LogLevel where
  /-- For those who look for a fault. -/
  | debug
  /-- For those who follow along. -/
  | info
  /-- Something went wrong. -/
  | warn
deriving DecidableEq, Repr

/-- What a field of an event holds. -/
inductive LogValue where
  /-- A text. -/
  | text (value : String)
  /-- A count. -/
  | count (value : Nat)
deriving DecidableEq, Repr

/-- Something that happened and is told to the log. -/
structure LogEvent where
  /-- How much it matters. -/
  level : LogLevel
  /-- What happened. -/
  message : String
  /-- The details, by name. -/
  fields : List (String × LogValue)
deriving DecidableEq, Repr

end DeviceFleet
