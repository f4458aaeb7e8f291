import SpindleDrive.Proofs.Drive.Answers
import SpindleDrive.Proofs.Operation.HostCall
import SpindleDrive.Simulation.Rig

/-!
# A line on which any exchange can fail

The rig of the simulation fails exchanges only from the next one on.  On a line they fail in any
pattern, each with its own error, and every request that is handed over is written down.

* `Line` — a rig with the faults that are still to come and the requests so far.
* `Line.send` — one exchange: a fault that is due keeps the request from the bus.
* `Line.surroundings` — the line as a spindle sees it.
-/

namespace SpindleDrive

/-- A rig behind a line with faults. -/
structure Line where
  rig : Rig
  /-- What becomes of the next exchanges: an error, or nothing out of order. -/
  faults : List (Option TransportError) := []
  /-- The requests that were handed over, the latest first. -/
  requests : List Request := []

namespace Line

def drive (l : Line) : SimulatedDrive := l.rig.bus.drive

/-- The refusals that are to take the place of the next replies. -/
def refusals (l : Line) : List ExceptionCode := l.rig.bus.refusals

/-- The line after a request, whatever becomes of it. -/
def hear (l : Line) (request : Request) : Line :=
  { l with faults := l.faults.tail, requests := request :: l.requests }

def send (request : Request) (mode : SendMode) (l : Line) : Exchange × Line :=
  match l.faults.head?.join with
  | some error => (.error error, l.hear request)
  | none =>
    let (result, rig) := l.rig.send request mode
    (result, { l.hear request with rig })

/-- The line as the spindle with a number sees it. -/
def surroundings (id : SpindleId) : Surroundings Line where
  isUp l := (Rig.surroundings id).isUp l.rig
  silence l := { l with rig := (Rig.surroundings id).silence l.rig }
  send request mode c l := (some (l.send request mode).1, c, (l.send request mode).2)
  elapsed l := (Rig.surroundings id).elapsed l.rig
  isColdStart l := (Rig.surroundings id).isColdStart l.rig
  journal _ _ _ l := l
  raiseAlarm l := { l with rig := (Rig.surroundings id).raiseAlarm l.rig }
  tolerance l := (Rig.surroundings id).tolerance l.rig
  setTolerance tolerance l :=
    { l with rig := (Rig.surroundings id).setTolerance tolerance l.rig }

end Line

end SpindleDrive
