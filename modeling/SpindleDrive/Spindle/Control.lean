import SpindleDrive.Spindle.Surroundings

/-!
# The operations of a spindle

The host's commands become requests on the bus, and the replies become what the host can ask for.

* `Spindle.setState` — starts or stops the spindle and sets its speed.
* `Spindle.setSpeed` — sets the speed, waiting for the drive or not.
* `Spindle.getState` — the state, with a reading of the speed at every poll interval.
* `Spindle.requestMaxSpeed` — asks for the highest speed.
* `Spindle.deliver` — takes a reply from the host or from a blocking exchange.

A reply can make the driver send the speed again, and that exchange can give a reply in turn.  So
replies are read one after the other by `Spindle.readReplies`, and one that comes in while others
are being read only joins the queue.  Against a drive that refuses everything at once this never
ends; `patience` is the number of steps after which reading is given up as endless.  An operation
that comes back does so with the same result for every greater patience.
-/

namespace SpindleDrive

namespace Spindle

open Operation

variable {World : Type}

/-! ## Setting the speed -/

def enqueue (reply : Reply) : Operation World Unit :=
  update fun c => { c with inbox := c.inbox ++ [reply] }

/-- The exchange for a speed: with every attempt that there is if the sender waits, with one
otherwise. -/
def exchangeSpeed (s : Spindle) (env : Surroundings World) (request : Request) (blocking : Bool) :
    Operation World (Except DriverError (Option Reply)) :=
  if blocking then
    sendRepeatedly (exchange env) request s.retries fun attempt =>
      update fun c => { c with speedOp := .retrying attempt }
  else
    Except.ok <$> sendOnce (exchange env) request

/-- Sends a speed to the drive, and programs it whether or not the drive has taken it.  A reply
that is there already goes to `onReply`, once the operation is over. -/
def sendSpeed (s : Spindle) (env : Surroundings World) (onReply : Reply → Operation World Unit)
    (rpm : Binary32) (blocking : Bool) : Operation World (Except DriverError Unit) := do
  let c ← context
  if !c.isSelected then return .error .notSelected
  if c.speedOp.isBusy then return .error (.reentrant .setSpeed)
  update fun c => { c with speedOp := .sending }
  let request := Request.speed c.address s.registers (s.reader.scale.toCode rpm)
  let outcome ← s.exchangeSpeed env request blocking
  let tolerance ← observe env.tolerance
  update (·.endSpeed rpm tolerance (.after outcome))
  match outcome with
  | .ok (some reply) =>
    onReply reply
    return .ok ()
  | .ok none => return .ok ()
  | .error e =>
    affect env.raiseAlarm
    return .error e

/-! ## Reading replies -/

/-- Sends a speed again if there is one to send.  That the spindle may refuse it is passed over. -/
def reissue (s : Spindle) (env : Surroundings World) : Option Binary32 → Operation World Unit
  | some rpm => do let _ ← s.sendSpeed env enqueue rpm false
  | none => pure ()

/-- Does what a finding asks for: sends the speed again, and then alarms the host. -/
def heed (s : Spindle) (env : Surroundings World) (finding : Finding) : Operation World Unit := do
  s.reissue env finding.reissue?
  if finding.escalates then affect env.raiseAlarm

/-- Reads the oldest reply of the inbox and does what it asks for; `false` when there is none. -/
def readReply (s : Spindle) (env : Surroundings World) : Operation World Bool := do
  let coldStart ← observe env.isColdStart
  let c ← context
  match c.inbox with
  | [] =>
    update fun c => { c with reading := false }
    return false
  | reply :: rest =>
    affect (env.journal reply coldStart c)
    update (s.takeIn reply rest coldStart)
    s.heed env (s.reader.read reply coldStart c.data c.exceptions).1
    return true

/-- Reads the replies of the inbox until there is none. -/
def readReplies (s : Spindle) (env : Surroundings World) : Nat → Operation World Unit
  | 0 => diverge
  | patience + 1 => do
    if ← s.readReply env then s.readReplies env patience

/-- Takes a reply.  If others are being read it waits its turn. -/
def deliver (s : Spindle) (env : Surroundings World) (patience : Nat) (reply : Reply) :
    Operation World Unit := do
  enqueue reply
  let c ← context
  if !c.reading then
    update fun c => { c with reading := true }
    s.readReplies env patience

def deliverAny (s : Spindle) (env : Surroundings World) (patience : Nat) :
    Option Reply → Operation World Unit
  | some reply => s.deliver env patience reply
  | none => pure ()

/-! ## The host's commands -/

/-- Sets the speed.  Waiting for the drive, it tries again on failures and alarms the host when
all attempts are used up; not waiting, it tries once and passes over a failure. -/
def setSpeed (s : Spindle) (env : Surroundings World) (patience : Nat) (rpm : Binary32)
    (blocking : Bool) : Operation World (Except DriverError Unit) :=
  s.sendSpeed env (s.deliver env patience) rpm blocking

/-- Starts or stops the spindle in a direction, and then sets its speed.  When the drive cannot be
reached for the first, the host is alarmed and the second is left out. -/
def setState (s : Spindle) (env : Surroundings World) (patience : Nat) (state : SpindleState)
    (rpm : Binary32) : Operation World (Except DriverError Unit) := do
  let c ← context
  if !c.isSelected then return .error .notSelected
  if c.statusOp.isBusy then return .error (.reentrant .setStatus)
  update (·.takeCommand state)
  let word := CommandWord.run (.forRequest state.on rpm) (.ofCcw state.ccw)
  let request := Request.command c.address s.registers word
  let outcome ← sendRepeatedly (exchange env) request s.retries fun attempt =>
    update fun c => { c with statusOp := .retrying attempt }
  match outcome with
  | .ok reply? =>
    update fun c => { c with statusOp := .idle }
    s.deliverAny env patience reply?
    s.setSpeed env patience rpm true
  | .error e =>
    update fun c => { c with statusOp := .failed }
    affect env.raiseAlarm
    return .error e

/-- The state, the verdict being that of the last measurement.  A selected spindle reads its speed
the first time and whenever the poll interval is over. -/
def getState (s : Spindle) (env : Surroundings World) (patience : Nat) :
    Operation World SpindleState := do
  let now ← observe env.elapsed
  let c ← context
  if c.isSelected && c.pollDue now s.config.pollInterval then
    update fun c => { c with lastPoll := some now }
    let reply? ← sendOnce (exchange env) (Request.readOutput c.address s.registers)
    s.deliverAny env patience reply?
  update fun c => { c with state := { c.state with atSpeed := c.data.commanded.atSpeed } }
  return (← context).state

/-- The speeds as they are known; nothing is sent. -/
def getData : Operation World SpeedData := do
  return (← context).data

/-- Asks for the highest speed, where the drive has a register for it. -/
def requestMaxSpeed (s : Spindle) (env : Surroundings World) (patience : Nat) :
    Operation World (Except DriverError Unit) := do
  let c ← context
  if !c.isSelected then return .error .notSelected
  match Request.readMax? c.address s.registers with
  | some request =>
    let reply? ← sendOnce (exchange env) request
    s.deliverAny env patience reply?
  | none => pure ()
  return .ok ()

end Spindle

end SpindleDrive
