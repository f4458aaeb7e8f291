import SpindleDrive.Bus.Simulated
import SpindleDrive.Host.Simulated
import SpindleDrive.Spindle.Registration
import SpindleDrive.Spindle.Selection

/-!
# A test bench

Any number of spindles on any number of simulated buses, under one simulated host.  Between a
spindle and its bus is a wire that can be told, exchange by exchange, what to do: let the exchange
through, make up its result, or call a spindle before the exchange is over.

* `WireAction`, `Wire` — the wires.
* `InnerCall` — the calls that a wire can make; none of them needs the bus that is taken.
* `BenchEvent` — what is recorded while a command is carried out.
* `Bench` — everything on the bench.
* `Bench.surroundings` — the bench as a spindle sees it.
* `Bench.act` — lets a spindle carry out an operation.
-/

namespace SpindleDrive

/-! ## Wires -/

/-- A call into a spindle from inside an exchange. -/
inductive InnerCall where
  | setState (state : SpindleState) (rpm : Binary32)
  | setSpeed (rpm : Binary32) (blocking : Bool)
  | deliver (reply : Reply)
  | getData
  /-- A call that no wire can make. -/
  | unsupported
  deriving Repr

/-- What became of a call from inside an exchange. -/
inductive InnerResult where
  | finished (outcome : Except DriverError Unit)
  | delivered
  | data (data : SpeedData)
  /-- The call would need the bus that is taken, and was not made. -/
  | refused
  | noSpindle

/-- What a wire does with an exchange. -/
inductive WireAction where
  | pass
  | fail (error : TransportError)
  /-- Makes it succeed without a reply. -/
  | swallow
  | respond (frame : Frame)
  | refuse (code : ExceptionCode)
  /-- Calls a spindle and then lets the exchange through. -/
  | reenter (slot : Nat) (call : InnerCall)
  deriving Repr

/-- The way from spindles to a bus. -/
structure Wire where
  bus : SimulatedBus
  /-- Whether every reply comes back at once, also to those that do not wait. -/
  synchronous : Bool := false
  /-- What to do with the next exchanges; those after are let through. -/
  script : List WireAction := []
  deriving Repr

/-! ## The bench -/

/-- An operation that was under way, of the spindle in a slot. -/
structure BusyOperation where
  slot : Nat
  kind : RequestKind
  progress : OperationState
  deriving DecidableEq, Repr

/-- What is recorded while a command is carried out. -/
inductive BenchEvent where
  | silence
  | sent (request : Request) (mode : SendMode) (busy : List BusyOperation)
  | reentered (result : InnerResult)
  | heardSelection (observer : String) (selection : Selection)
  | heardSettings (observer : String) (changed : SettingsChanged)

/-- A spindle on the bench, with the number of its wire. -/
structure Seat where
  spindle : Spindle
  wire : Nat
  context : SpindleContext
  deriving Repr

/-- Who hears the notices of the host. -/
inductive BenchObserver where
  | spindle (slot : Nat)
  /-- One that records what it hears. -/
  | recorder (name : String)
  /-- One that does nothing. -/
  | silent
  deriving DecidableEq, Repr

structure Bench where
  registry : Registry := {}
  host : SimulatedHost := {}
  wires : List Wire := []
  /-- The spindles; one that could not be set up leaves its slot empty. -/
  slots : List (Option Seat) := []
  /-- The observers, in the order in which they hear of things. -/
  chain : List BenchObserver := []
  /-- What is recorded, the latest first. -/
  recorded : List BenchEvent := []

namespace Bench

def seat? (b : Bench) (slot : Nat) : Option Seat :=
  b.slots[slot]?.join

def setContext (b : Bench) (slot : Nat) (c : SpindleContext) : Bench :=
  { b with slots := b.slots.modify slot (·.map ({ · with context := c })) }

def modifyWire (b : Bench) (wire : Nat) (f : Wire → Wire) : Bench :=
  { b with wires := b.wires.modify wire f }

def modifyBus (b : Bench) (wire : Nat) (f : SimulatedBus → SimulatedBus) : Bench :=
  b.modifyWire wire fun w => { w with bus := f w.bus }

def record (b : Bench) (event : BenchEvent) : Bench :=
  { b with recorded := event :: b.recorded }

/-- What is recorded, in the order in which it came about. -/
def events (b : Bench) : List BenchEvent := b.recorded.reverse

/-- The operations that are under way, slot by slot. -/
def busy (b : Bench) : List BusyOperation :=
  b.slots.zipIdx.flatMap fun (seat?, slot) =>
    match seat? with
    | none => []
    | some seat =>
      let c := seat.context
      (if c.statusOp.isBusy then [⟨slot, .setStatus, c.statusOp⟩] else []) ++
        (if c.speedOp.isBusy then [⟨slot, .setSpeed, c.speedOp⟩] else [])

/-- More steps than reading replies can take: each reply but those at hand needs an action of a
script, a refusal that is ordered, or an exchange that a refusal has caused. -/
def patience (b : Bench) : Nat :=
  let ordered := b.wires.map fun w => 4 * w.script.length + w.bus.refusals.length
  let waiting := b.slots.map fun seat? =>
    match seat? with
    | none => 0
    | some seat => 2 * seat.context.inbox.length
  (ordered ++ waiting).foldl (· + ·) 8

/-! ## What a spindle sees -/

/-- The bench as the spindle in a seat sees it while its bus is taken. -/
def quietSurroundings (seat : Seat) : Surroundings Bench where
  isUp b := (b.wires[seat.wire]?).elim false (·.bus.up)
  silence b := (b.modifyBus seat.wire (·.silence)).record .silence
  send _ _ c b := (none, c, b)
  elapsed b := b.host.elapsed
  isColdStart b := b.host.coldStart
  journal _ _ _ b := b
  raiseAlarm b := { b with host := b.host.raiseAlarm .spindle }
  tolerance b := b.registry.tolerance seat.spindle.id
  setTolerance tolerance b :=
    { b with registry := b.registry.modify seat.spindle.id ({ · with tolerance }) }

/-- Carries out an operation of the spindle in a slot. -/
def actIn {α : Type} (env : Surroundings Bench) (slot : Nat) (seat : Seat)
    (op : Spindle → Surroundings Bench → Nat → Operation Bench α) (b : Bench) :
    Option (α × Bench) :=
  match (op seat.spindle env b.patience).run.run (seat.context, b) with
  | (some result, (c, b)) => some (result, b.setContext slot c)
  | (none, _) => none

/-- Whether a spindle can take a call while a bus is taken: a command must be one that it refuses,
and a reply must not make it send. -/
def admits (c : SpindleContext) : InnerCall → Bool
  | .setState .. => c.statusOp.isBusy
  | .setSpeed .. => c.speedOp.isBusy
  | .deliver reply => !(reply.kind = .setSpeed && reply.isException) || c.speedOp.isBusy
  | .getData => true
  | .unsupported => false

/-- Makes a call to a spindle from inside an exchange. -/
def innerCall (slot : Nat) (call : InnerCall) (b : Bench) : Option (InnerResult × Bench) :=
  match b.seat? slot with
  | none => some (.noSpindle, b)
  | some seat =>
    if !admits seat.context call then some (.refused, b)
    else
      let env := quietSurroundings seat
      match call with
      | .setState state rpm =>
        (actIn env slot seat (fun s env n => s.setState env n state rpm) b).map
          fun (r, b) => (.finished r, b)
      | .setSpeed rpm blocking =>
        (actIn env slot seat (fun s env n => s.setSpeed env n rpm blocking) b).map
          fun (r, b) => (.finished r, b)
      | .deliver reply =>
        (actIn env slot seat (fun s env n => s.deliver env n reply) b).map
          fun (_, b) => (.delivered, b)
      | .getData =>
        (actIn env slot seat (fun _ _ _ => Spindle.getData) b).map fun (d, b) => (.data d, b)
      | .unsupported => some (.refused, b)

/-- Lets an exchange through to the bus of a wire. -/
def passThrough (wire : Nat) (request : Request) (mode : SendMode) (b : Bench) :
    Exchange × Bench :=
  match b.wires[wire]? with
  | none => (.error .notUp, b)
  | some w =>
    let (result, bus) := w.bus.send request (if w.synchronous then .blocking else mode)
    (result, b.modifyBus wire fun _ => bus)

/-- An exchange over a wire: it is recorded, and then the first action left in the script is
taken. -/
def exchange (wire : Nat) (request : Request) (mode : SendMode) (b : Bench) :
    Option (Exchange × Bench) :=
  let b := b.record (.sent request mode b.busy)
  let script := (b.wires[wire]?).elim [] (·.script)
  let b := b.modifyWire wire fun w => { w with script := w.script.drop 1 }
  match script.head? with
  | none | some .pass => some (passThrough wire request mode b)
  | some (.fail error) => some (.error error, b)
  | some .swallow => some (.ok none, b)
  | some (.respond frame) => some (.ok (some (.ofFrame request.kind frame)), b)
  | some (.refuse code) => some (.ok (some (.exception request.kind code)), b)
  | some (.reenter slot call) => do
    let (result, b) ← innerCall slot call b
    return passThrough wire request mode (b.record (.reentered result))

/-- The bench as the spindle in a seat sees it.  During an exchange its state is back on the bench,
where the wire can call it. -/
def surroundings (slot : Nat) (seat : Seat) : Surroundings Bench :=
  { quietSurroundings seat with
    send := fun request mode c b =>
      let after? := do
        let (result, b) ← exchange seat.wire request mode (b.setContext slot c)
        let seat ← b.seat? slot
        return (result, seat.context, b)
      match after? with
      | some (result, c, b) => (some result, c, b)
      | none => (none, c, b) }

def act {α : Type} (slot : Nat) (seat : Seat)
    (op : Spindle → Surroundings Bench → Nat → Operation Bench α) (b : Bench) :
    Option (α × Bench) :=
  actIn (surroundings slot seat) slot seat op b

end Bench

end SpindleDrive
