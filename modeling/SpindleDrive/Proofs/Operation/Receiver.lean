import Mathlib.Tactic.Lemma
import SpindleDrive.Spindle.Selection

/-!
# Who receives a reply

The driver delivers every reply that an exchange gives.  Most of what is known of an operation does
not depend on what becomes of its reply, so here each operation is given with a receiver of any
kind.

* `Spindle.handOver` — a reply, if there is one, goes to its receiver.
* `Spindle.setStateWith`, `Spindle.getStateWith`, `Spindle.requestMaxSpeedWith`, `Spindle.bindWith`
  — the operations that send, with their receiver.  Setting a speed has one as it is.
* `Spindle.heedWith` — heeding a finding, which may send a speed again.
* `setState_eq_with` and its like — with the driver as its own receiver they are what they were.
-/

namespace SpindleDrive

namespace Spindle

open Operation

variable {World : Type} (s : Spindle) (env : Surroundings World)
  (onReply : Reply → Operation World Unit)

def handOver : Option Reply → Operation World Unit
  | some reply => onReply reply
  | none => pure ()

/-- Starts or stops the spindle in a direction, and then sets its speed. -/
def setStateWith (state : SpindleState) (rpm : Binary32) :
    Operation World (Except DriverError Unit) := do
  let c ← context
  if !c.isSelected then return .error .notSelected
  if c.statusOp.isBusy then return .error (.reentrant .setStatus)
  update (·.takeCommand state)
  let word := CommandWord.run (.forRequest state.on rpm) (.ofCcw state.ccw)
  let request := Request.command c.address s.registers word
  let outcome ← sendRepeatedly (exchange env) request s.retries fun attempt =>
    update fun c => { c with statusOp := .retrying attempt }
  match outcome with
  | .ok reply? =>
    update fun c => { c with statusOp := .idle }
    handOver onReply reply?
    s.sendSpeed env onReply rpm true
  | .error e =>
    update fun c => { c with statusOp := .failed }
    affect env.raiseAlarm
    return .error e

/-- The state, after a reading of the speed if one is due. -/
def getStateWith : Operation World SpindleState := do
  let now ← observe env.elapsed
  let c ← context
  if c.isSelected && c.pollDue now s.config.pollInterval then
    update fun c => { c with lastPoll := some now }
    let reply? ← sendOnce (exchange env) (Request.readOutput c.address s.registers)
    handOver onReply reply?
  update fun c => { c with state := { c.state with atSpeed := c.data.commanded.atSpeed } }
  return (← context).state

/-- Asks for the highest speed, where the drive has a register for it. -/
def requestMaxSpeedWith : Operation World (Except DriverError Unit) := do
  let c ← context
  if !c.isSelected then return .error .notSelected
  match Request.readMax? c.address s.registers with
  | some request =>
    let reply? ← sendOnce (exchange env) request
    handOver onReply reply?
  | none => pure ()
  return .ok ()

/-- Hears that a spindle is selected. -/
def bindWith (selection : Selection) : Operation World Unit := do
  if selection.id ≠ s.id then
    update fun c => { c with selection := none }
  else
    update fun c =>
      { c with
        selection := some selection
        data := { c.data with programmed := noSpeed }
        address := s.config.modbusAddress selection.binding }
    affect env.silence
    if s.config.queryMaxOnSelect then
      let _ ← s.requestMaxSpeedWith env onReply

/-- Sends a speed again if there is one to send. -/
def reissueWith : Option Binary32 → Operation World Unit
  | some rpm => do let _ ← s.sendSpeed env onReply rpm false
  | none => pure ()

/-- Does what a finding asks for. -/
def heedWith (finding : Finding) : Operation World Unit := do
  s.reissueWith env onReply finding.reissue?
  if finding.escalates then affect env.raiseAlarm

/-! ## The driver as the receiver -/

variable (patience : Nat)

lemma deliverAny_eq_with : s.deliverAny env patience = handOver (s.deliver env patience) := rfl

lemma setState_eq_with : s.setState env patience = s.setStateWith env (s.deliver env patience) :=
  rfl

lemma getState_eq_with : s.getState env patience = s.getStateWith env (s.deliver env patience) :=
  rfl

lemma requestMaxSpeed_eq_with :
    s.requestMaxSpeed env patience = s.requestMaxSpeedWith env (s.deliver env patience) := rfl

lemma reissue_eq_with : s.reissue env = s.reissueWith env enqueue := rfl

lemma heed_eq_with : s.heed env = s.heedWith env enqueue := rfl

lemma bind_eq_with : s.bind env patience = s.bindWith env (s.deliver env patience) := rfl

end Spindle

end SpindleDrive
