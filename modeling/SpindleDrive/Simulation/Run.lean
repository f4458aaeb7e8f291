import SpindleDrive.Simulation.Rig
import SpindleDrive.Spindle.Registration

/-!
# A simulated run of a spindle

The driver takes a simulated drive through a whole run: the spindle is selected and started, its
speed is read tick by tick, and it is stopped.

* `Simulation` — what to run.
* `SimulationReport` — what was seen.
* `Simulation.run` — the run for a configuration.
-/

namespace SpindleDrive

/-- What to run. -/
structure Simulation where
  rpm : Binary32 := .ofNat 12000
  ccw : Bool := false
  ticks : UInt32 := 5
  /-- The milliseconds of a tick. -/
  tickLength : UInt64 := 100
  /-- The tolerance of the host; a negative one turns the check of speeds off. -/
  tolerance : Binary32 := .ofNat 5
  /-- The exchanges that fail from the start on. -/
  failures : Nat := 0
  deriving DecidableEq, Repr

/-- What is seen at a tick. -/
structure Poll where
  state : SpindleState
  rpm : Binary32
  deriving DecidableEq, Repr

/-- What was seen in a run. -/
structure SimulationReport where
  polls : List Poll
  alarms : Nat
  maxSpeed : Option Binary32
  deriving DecidableEq, Repr

namespace Simulation

open Operation

/-- A rig with a stopped drive that matches the configuration. -/
def rig (c : Config) (registry : Registry) : Rig where
  bus := .ofDrive (.ofModel (c.modbusAddress 0) c.model)
  registry

/-- The state to start in. -/
def state (sim : Simulation) : SpindleState :=
  if sim.ccw then .counterClockwise else .cw

/-- Sets the tolerance, selects the spindle and asks for its highest speed. -/
def select (sim : Simulation) (s : Spindle) : Operation Rig Unit := do
  let env := Rig.surroundings s.id
  Spindle.applySettings env { tolerance := sim.tolerance } { spindle := true }
  s.bind env (← Rig.patience) ⟨s.id, 0⟩
  let _ ← s.requestMaxSpeed env (← Rig.patience)
  Rig.pump s

/-- Gives the spindle a state and a speed; that this may fail is passed over. -/
def command (s : Spindle) (state : SpindleState) (rpm : Binary32) : Operation Rig Unit := do
  let _ ← s.setState (Rig.surroundings s.id) (← Rig.patience) state rpm

/-- Lets a tick go by and looks at the spindle.  The state is asked for twice, since it is only
after the reply to the first time that the verdict is new. -/
def tick (sim : Simulation) (s : Spindle) : Operation Rig Poll := do
  let env := Rig.surroundings s.id
  affect fun r => { r with host := r.host.advance sim.tickLength }
  let _ ← s.getState env (← Rig.patience)
  Rig.pump s
  let state ← s.getState env (← Rig.patience)
  let data ← Spindle.getData
  return ⟨state, data.measured⟩

/-- Lets some ticks go by; `seen` is what was seen before, the latest first. -/
def ticking (sim : Simulation) (s : Spindle) (seen : List Poll) : Nat → Operation Rig (List Poll)
  | 0 => pure seen.reverse
  | n + 1 => do
    let poll ← sim.tick s
    sim.ticking s (poll :: seen) n

/-- The whole run of a spindle that is set up. -/
def operate (sim : Simulation) (s : Spindle) : Operation Rig SimulationReport := do
  sim.select s
  affect (Rig.modifyBus (·.failNext sim.failures))
  command s sim.state sim.rpm
  let polls ← sim.ticking s [] sim.ticks.toNat
  command s .off .zero
  Rig.pump s
  let c ← context
  let alarms ← observe (·.host.alarms.length)
  return { polls, alarms, maxSpeed := c.maxSpeed }

/-- The run for a configuration, or why no spindle can be set up.  There is no report of a run
that does not come to an end. -/
def run (sim : Simulation) (c : Config) : Except DriverError (Option SimulationReport) := do
  let plan : SpindlePlan := { config := some c }
  let ((s, context), registry) ← plan.build {}
  return ((sim.operate s).run.run (context, rig c registry)).1

end Simulation

end SpindleDrive
