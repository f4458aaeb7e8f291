import SpindleDrive.Config.Basic
import SpindleDrive.Drive.Request
import SpindleDrive.Spindle.SpeedData

/-!
# Requests ahead of time

The requests that a command to a spindle comes to, built from the configuration alone.  No bus is
needed, so they can be looked at before a drive is there.

* `Preview` — the command, and what else is to be shown.
* `Preview.requests` — the requests: the reset of fault flags if asked for, the command word, the
  speed, and the readings if asked for.
-/

namespace SpindleDrive

/-- A command whose requests are to be shown. -/
structure Preview where
  state : SpindleState := .cw
  rpm : Binary32 := .zero
  /-- The number under which the host knows the spindle. -/
  binding : UInt8 := 0
  /-- Whether the readings of both frequencies are shown. -/
  queries : Bool := false
  /-- Whether the reset of fault flags is shown. -/
  resetFaults : Bool := false
  deriving DecidableEq, Repr

namespace Preview

def word (p : Preview) : CommandWord :=
  .run (.forRequest p.state.on p.rpm) (.ofCcw p.state.ccw)

def requests (p : Preview) (c : Config) : Except ConfigError (List Request) := do
  let scale ← c.speedScale
  let address := c.modbusAddress p.binding
  let registers := c.model.registers
  let reset := if p.resetFaults then [Request.command address registers .resetFaults] else []
  let command :=
    [Request.command address registers p.word, .speed address registers (scale.toCode p.rpm)]
  let queries :=
    if p.queries then
      .readOutput address registers :: (Request.readMax? address registers).toList
    else []
  return reset ++ command ++ queries

end Preview

end SpindleDrive
