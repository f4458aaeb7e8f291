import SpindleDrive.Bench.Basic

/-!
# Working at the bench

* `BenchPlan`, `BenchPlan.setUp` — sets a bench up; every spindle that can be built hears the
  notices of the host.
* `BenchCommand`, `SpindleCommand` — what can be done at the bench.
* `Bench.step` — carries out a command, with an answer; a command that never ends has none.
-/

namespace SpindleDrive

/-! ## Setting up -/

/-- A wire to set up, with the drive at its end. -/
structure WirePlan where
  address : UInt8 := 1
  model : DriveModel := .yl620
  maxFrequency : Option UInt16 := none
  synchronous : Bool := false
  deriving Repr

/-- A spindle to set up, with the number of its wire. -/
structure SeatPlan where
  config : Config := {}
  name : Option String := none
  wire : Nat := 0
  deriving Repr

/-- A bench to set up; the host may have a spindle of its own, which comes first. -/
structure BenchPlan where
  withPwm : Bool := false
  wires : List WirePlan := [{}]
  seats : List SeatPlan := [{}]
  deriving Repr

namespace BenchPlan

def wire (p : WirePlan) : Wire :=
  let drive := SimulatedDrive.ofModel p.address p.model
  { bus := .ofDrive { drive with maxFrequency := p.maxFrequency.getD drive.maxFrequency }
    synchronous := p.synchronous }

/-- Sets a spindle up in the next slot. -/
def addSeat (b : Bench) (p : SeatPlan) : Except DriverError SpindleId × Bench :=
  let plan : SpindlePlan := { config := some p.config, name := p.name }
  match plan.enter.run.run b.registry with
  | (.error e, registry) => (.error e, { b with registry, slots := b.slots ++ [none] })
  | (.ok (spindle, context), registry) =>
    (.ok spindle.id,
      { b with
        registry
        slots := b.slots ++ [some { spindle, wire := p.wire, context }]
        chain := b.chain ++ [.spindle b.slots.length] })

def addSeats (b : Bench) : List SeatPlan → List (Except DriverError SpindleId) × Bench
  | [] => ([], b)
  | p :: rest =>
    let (result, b) := addSeat b p
    let (results, b) := addSeats b rest
    (result :: results, b)

/-- The bench with nothing but wires, and the host's own spindle if there is to be one. -/
def bare (p : BenchPlan) : Bench :=
  let own : List Descriptor := if p.withPwm then [{ name := "PWM", capabilities := {} }] else []
  { registry := { descriptors := own }, wires := p.wires.map wire }

/-- Sets a bench up; says what became of each spindle. -/
def setUp (p : BenchPlan) : List (Except DriverError SpindleId) × Bench :=
  addSeats p.bare p.seats

end BenchPlan

/-! ## Commands -/

/-- What can be done with a spindle. -/
inductive SpindleCommand where
  /-- Makes it hear the notices of the host once more. -/
  | attach
  | bind (id : SpindleId) (binding : UInt8)
  | applySettings (settings : HostSettings) (changed : SettingsChanged)
  | configure
  | setState (state : SpindleState) (rpm : Binary32)
  | setSpeed (rpm : Binary32) (blocking : Bool)
  | requestMaxSpeed
  | getState
  | getData
  | deliver (reply : Reply)
  /-- Delivers all replies that wait on a wire. -/
  | pump (wire : Nat)
  deriving Repr

/-- What can be done at the bench. -/
inductive BenchCommand where
  | select (id : SpindleId) (binding : UInt8)
  | changeSettings (settings : HostSettings) (changed : SettingsChanged)
  | report (newOptions : Bool) (text : String)
  | observe (observer : BenchObserver)
  | clearChain
  | descriptor (id : SpindleId)
  | advance (milliseconds : UInt64)
  | setColdStart (on : Bool)
  | alarms
  | clearAlarms
  | setUp (wire : Nat) (up : Bool)
  | failNext (wire : Nat) (count : Nat)
  | refuseNext (wire : Nat) (codes : List ExceptionCode)
  | setMaxFrequency (wire : Nat) (value : UInt16)
  | sentKinds (wire : Nat)
  | clearSent (wire : Nat)
  | dropPending (wire : Nat)
  | script (wire : Nat) (actions : List WireAction)
  /-- Sends on a bus, past its wire. -/
  | send (wire : Nat) (request : Request) (mode : SendMode)
  | spindle (slot : Nat) (command : SpindleCommand)
  deriving Repr

inductive BenchAnswer where
  | nothing
  | unknownId
  | noSpindle
  | text (text : String)
  | count (n : Nat)
  | flag (value : Bool)
  | descriptor (d : Option Descriptor)
  | alarms (alarms : List Alarm)
  | kinds (kinds : List RequestKind)
  | exchange (result : Exchange)
  | outcome (result : Except DriverError Unit)
  | state (state : SpindleState)
  | data (data : SpeedData)
  | replies (replies : List Reply)

namespace Bench

/-! ## Notices -/

/-- Tells one observer of a selection. -/
def tellSelection (selection : Selection) (b : Bench) : BenchObserver → Option Bench
  | .spindle slot =>
    match b.seat? slot with
    | none => some b
    | some seat => (b.act slot seat fun s env n => s.bind env n selection).map (·.2)
  | .recorder name => some (b.record (.heardSelection name selection))
  | .silent => some b

/-- Tells one observer that settings have changed. -/
def tellSettings (settings : HostSettings) (changed : SettingsChanged) (b : Bench) :
    BenchObserver → Option Bench
  | .spindle slot =>
    match b.seat? slot with
    | none => some b
    | some seat =>
      (b.act slot seat fun _ env _ => Spindle.applySettings env settings changed).map (·.2)
  | .recorder name => some (b.record (.heardSettings name changed))
  | .silent => some b

/-- What one observer adds to a report. -/
def addToReport (b : Bench) (newOptions : Bool) (report : String) : BenchObserver → String
  | .spindle slot =>
    match b.seat? slot with
    | none => report
    | some seat => seat.spindle.reportOptions newOptions report
  | .recorder name => report ++ "[" ++ name ++ ":" ++ toString newOptions ++ "]\n"
  | .silent => report

/-- Delivers replies to a spindle, one after the other. -/
def deliverAll (slot : Nat) : List Reply → Bench → Option Bench
  | [], b => some b
  | reply :: rest, b =>
    match b.seat? slot with
    | none => some b
    | some seat => do
      let (_, b) ← b.act slot seat fun s env n => s.deliver env n reply
      deliverAll slot rest b

/-! ## Steps -/

/-- Carries out a command for the spindle in a seat. -/
def stepSpindle (b : Bench) (slot : Nat) (seat : Seat) :
    SpindleCommand → Option (BenchAnswer × Bench)
  | .attach =>
    let b := { b with chain := b.chain ++ [.spindle slot] }
    some (.count b.chain.length, b)
  | .bind id binding =>
    match b.registry.select id binding with
    | none => some (.unknownId, b)
    | some selection =>
      (b.act slot seat fun s env n => s.bind env n selection).map fun (_, b) => (.nothing, b)
  | .applySettings settings changed =>
    (b.act slot seat fun _ env _ => Spindle.applySettings env settings changed).map
      fun (_, b) => (.nothing, b)
  | .configure => some (.flag ((surroundings slot seat).isUp b), b)
  | .setState state rpm =>
    (b.act slot seat fun s env n => s.setState env n state rpm).map fun (r, b) => (.outcome r, b)
  | .setSpeed rpm blocking =>
    (b.act slot seat fun s env n => s.setSpeed env n rpm blocking).map
      fun (r, b) => (.outcome r, b)
  | .requestMaxSpeed =>
    (b.act slot seat fun s env n => s.requestMaxSpeed env n).map fun (r, b) => (.outcome r, b)
  | .getState => (b.act slot seat fun s env n => s.getState env n).map fun (r, b) => (.state r, b)
  | .getData => (b.act slot seat fun _ _ _ => Spindle.getData).map fun (r, b) => (.data r, b)
  | .deliver reply =>
    (b.act slot seat fun s env n => s.deliver env n reply).map fun (_, b) => (.nothing, b)
  | .pump wire => do
    let pending := (b.wires[wire]?).elim [] (·.bus.pending)
    let b ← deliverAll slot pending (b.modifyBus wire fun bus => bus.takePending.2)
    return (.replies pending, b)

/-- Carries out a command.  What is recorded is the events of this command alone. -/
def step (b : Bench) (command : BenchCommand) : Option (BenchAnswer × Bench) :=
  let b := { b with recorded := [] }
  match command with
  | .select id binding =>
    match b.registry.select id binding with
    | none => some (.unknownId, b)
    | some selection => do
      let b ← b.chain.foldlM (tellSelection selection) b
      return (.nothing, b)
  | .changeSettings settings changed => do
    let b ← b.chain.foldlM (tellSettings settings changed) b
    return (.nothing, b)
  | .report newOptions text =>
    some (.text (b.chain.foldl (b.addToReport newOptions) text), b)
  | .observe observer =>
    let b := { b with chain := b.chain ++ [observer] }
    some (.count b.chain.length, b)
  | .clearChain => some (.flag true, { b with chain := [] })
  | .descriptor id => some (.descriptor (b.registry.get? id), b)
  | .advance milliseconds =>
    let host := b.host.advance milliseconds
    some (.count host.elapsed.toNat, { b with host })
  | .setColdStart on => some (.flag on, { b with host := { b.host with coldStart := on } })
  | .alarms => some (.alarms b.host.alarms, b)
  | .clearAlarms => some (.nothing, { b with host := { b.host with alarms := [] } })
  | .setUp wire up => some (.nothing, b.modifyBus wire (·.setUp up))
  | .failNext wire count => some (.nothing, b.modifyBus wire (·.failNext count))
  | .refuseNext wire codes =>
    some (.nothing, b.modifyBus wire fun bus => codes.foldl SimulatedBus.refuseNext bus)
  | .setMaxFrequency wire value =>
    some (.nothing, b.modifyBus wire fun bus =>
      { bus with drive := { bus.drive with maxFrequency := value } })
  | .sentKinds wire =>
    some (.kinds ((b.wires[wire]?).elim [] fun w => w.bus.sent.map (·.1.kind)), b)
  | .clearSent wire => some (.nothing, b.modifyBus wire ({ · with log := [] }))
  | .dropPending wire =>
    let count := (b.wires[wire]?).elim 0 (·.bus.dropPending.1)
    some (.count count, b.modifyBus wire fun bus => bus.dropPending.2)
  | .script wire actions =>
    some (.nothing, b.modifyWire wire fun w => { w with script := w.script ++ actions })
  | .send wire request mode =>
    match b.wires[wire]? with
    | none => some (.nothing, b)
    | some w =>
      let (result, bus) := w.bus.send request mode
      some (.exchange result, b.modifyBus wire fun _ => bus)
  | .spindle slot command =>
    match b.seat? slot with
    | none => some (.noSpindle, b)
    | some seat => b.stepSpindle slot seat command

end Bench

end SpindleDrive
