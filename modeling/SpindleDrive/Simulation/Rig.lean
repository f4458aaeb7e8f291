import SpindleDrive.Bus.Simulated
import SpindleDrive.Host.Simulated
import SpindleDrive.Spindle.Selection

/-!
# A rig for one spindle

One spindle closes a loop with a simulated bus and a simulated host.

* `Rig` — the bus, the host and its register of spindles.
* `Rig.surroundings` — the rig as the spindle sees it.
* `Rig.patience` — steps enough for the replies that are to be read.
* `Rig.pump` — delivers the replies that wait on the bus, which is the host's duty.
-/

namespace SpindleDrive

/-- What is around the one spindle. -/
structure Rig where
  bus : SimulatedBus
  /-- Whether every reply comes back at once, also to those that do not wait. -/
  synchronous : Bool := false
  host : SimulatedHost := {}
  registry : Registry := {}
  deriving Repr

namespace Rig

open Operation

def modifyBus (f : SimulatedBus → SimulatedBus) (r : Rig) : Rig := { r with bus := f r.bus }

def send (request : Request) (mode : SendMode) (r : Rig) : Exchange × Rig :=
  let (result, bus) := r.bus.send request (if r.synchronous then .blocking else mode)
  (result, { r with bus })

/-- The rig as the spindle with a number sees it. -/
def surroundings (id : SpindleId) : Surroundings Rig where
  isUp r := r.bus.up
  silence := modifyBus (·.silence)
  send request mode c r :=
    let (result, r) := r.send request mode
    (some result, c, r)
  elapsed r := r.host.elapsed
  isColdStart r := r.host.coldStart
  journal _ _ _ r := r
  raiseAlarm r := { r with host := r.host.raiseAlarm .spindle }
  tolerance r := r.registry.tolerance id
  setTolerance tolerance r := { r with registry := r.registry.modify id ({ · with tolerance }) }

/-- More steps than reading replies can take: each reply but those at hand comes from an exchange
that a refusal has caused, and the refusals are those that were ordered. -/
def patience : Operation Rig Nat :=
  fun (c, r) => (some (c.inbox.length + r.bus.refusals.length + 8), (c, r))

def deliver (s : Spindle) (reply : Reply) : Operation Rig Unit := do
  let n ← patience
  s.deliver (surroundings s.id) n reply

/-- Delivers the replies that wait on the bus. -/
def pump (s : Spindle) : Operation Rig Unit := do
  let pending ← observe (·.bus.pending)
  affect (modifyBus (·.takePending.2))
  pending.forM (deliver s)

end Rig

end SpindleDrive
