import SpindleDrive.Bus.Transport
import SpindleDrive.Drive.Simulated

/-!
# A simulated bus

A transport with one simulated drive on it, in which exchanges can be made to fail and replies to
be refusals.  It keeps a record of everything that was sent.

* `SimulatedBus` — its state.
* `SimulatedBus.send` — one exchange.  A bus that is down fails and uses nothing up; else a failure
  that was ordered comes first, then a refusal that was ordered, then the drive's answer.
* `SimulatedBus.takePending` — the replies to exchanges that did not block, for the host to deliver;
  `SimulatedBus.dropPending` loses them.
* `SimulatedBus.setUp`, `failNext`, `refuseNext` — what is to go wrong.
-/

namespace SpindleDrive

structure SimulatedBus where
  drive : SimulatedDrive
  up : Bool := true
  /-- The exchanges that are still to fail. -/
  failing : Nat := 0
  /-- The refusals that are to take the place of the next replies. -/
  refusals : List ExceptionCode := []
  /-- Everything sent, the latest first, failed attempts included. -/
  log : List (Request × SendMode) := []
  /-- The replies that wait to be delivered. -/
  pending : List Reply := []
  /-- The silences that were asked for. -/
  silences : Nat := 0
  deriving Repr

namespace SimulatedBus

def ofDrive (drive : SimulatedDrive) : SimulatedBus := { drive }

/-- Everything sent, the oldest first. -/
def sent (b : SimulatedBus) : List (Request × SendMode) := b.log.reverse

/-- The reply to a request on a bus that is up and not made to fail, if there is one. -/
def reply? (b : SimulatedBus) (request : Request) : Option Reply × SimulatedBus :=
  match b.refusals with
  | code :: rest => (some (.exception request.kind code), { b with refusals := rest })
  | [] =>
    let (frame, drive) := b.drive.handle request.frame
    (frame.map (Reply.ofFrame request.kind), { b with drive })

/-- Hands a reply over: at once to a sender that waits, and to the queue otherwise. -/
def hand (b : SimulatedBus) (mode : SendMode) (reply : Reply) : Option Reply × SimulatedBus :=
  match mode with
  | .blocking => (some reply, b)
  | .nonBlocking => (none, { b with pending := b.pending ++ [reply] })

def send (b : SimulatedBus) (request : Request) (mode : SendMode) :
    Except TransportError (Option Reply) × SimulatedBus :=
  let b := { b with log := (request, mode) :: b.log }
  if !b.up then (.error .notUp, b)
  else if 0 < b.failing then (.error .timeout, { b with failing := b.failing - 1 })
  else
    match b.reply? request with
    | (none, b) => (.error .timeout, b)
    | (some reply, b) =>
      let (handed, b) := b.hand mode reply
      (.ok handed, b)

def takePending (b : SimulatedBus) : List Reply × SimulatedBus :=
  (b.pending, { b with pending := [] })

/-- Throws the replies that wait away, and says how many there were. -/
def dropPending (b : SimulatedBus) : Nat × SimulatedBus :=
  (b.pending.length, { b with pending := [] })

def setUp (b : SimulatedBus) (up : Bool) : SimulatedBus := { b with up }

/-- Makes the next exchanges fail, in place of those that were still to fail. -/
def failNext (b : SimulatedBus) (count : Nat) : SimulatedBus := { b with failing := count }

def refuseNext (b : SimulatedBus) (code : ExceptionCode) : SimulatedBus :=
  { b with refusals := b.refusals ++ [code] }

def silence (b : SimulatedBus) : SimulatedBus := { b with silences := b.silences + 1 }

end SimulatedBus

end SpindleDrive
