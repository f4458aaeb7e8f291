import SpindleDrive.Host.Registry

/-!
# A simulated host

A host whose clock is set by hand and which keeps a record of its alarms.
-/

namespace SpindleDrive

/-- The clock, whether the host is still starting up, and the alarms raised so far. -/
structure SimulatedHost where
  elapsed : UInt64 := 0
  coldStart : Bool := false
  alarms : List Alarm := []
  deriving DecidableEq, Repr

namespace SimulatedHost

/-- Moves the clock on; it wraps around after `2 ^ 64` milliseconds. -/
def advance (h : SimulatedHost) (milliseconds : UInt64) : SimulatedHost :=
  { h with elapsed := h.elapsed + milliseconds }

def raiseAlarm (h : SimulatedHost) (alarm : Alarm) : SimulatedHost :=
  { h with alarms := h.alarms ++ [alarm] }

end SimulatedHost

end SpindleDrive
