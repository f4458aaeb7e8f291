import SpindleDrive.Host.Registry
import SpindleDrive.Spindle.Attempts
import SpindleDrive.Spindle.Finding

/-!
# A spindle and its changing state

* `Spindle` — what stays the same: the number in the host's register, the configuration, and the
  conversions that follow from it.
* `SpindleContext` — what changes: address and selection, the state and the speeds, how far each
  operation is, and the replies that wait to be read.
* `Spindle.make` — a spindle that is not selected, or the fault of its configuration.
-/

namespace SpindleDrive

/-- What stays the same about a spindle. -/
structure Spindle where
  id : SpindleId
  config : Config
  reader : ReplyReader
  deriving DecidableEq, Repr

/-- What changes about a spindle. -/
structure SpindleContext where
  address : UInt8
  selection : Option Selection := none
  state : SpindleState := {}
  data : SpeedData := {}
  /-- How far the write of the command register is. -/
  statusOp : OperationState := .idle
  /-- How far the write of the frequency register is. -/
  speedOp : OperationState := .idle
  exceptions : ExceptionCounter
  /-- The clock at the last reading of the speed. -/
  lastPoll : Option UInt64 := none
  maxSpeed : Option Binary32 := none
  /-- The replies that wait to be read, the oldest first. -/
  inbox : List Reply := []
  /-- Whether replies are being read; those that come in meanwhile wait in the inbox. -/
  reading : Bool := false
  deriving DecidableEq, Repr

namespace SpindleContext

def isSelected (c : SpindleContext) : Bool := c.selection.isSome

/-- Takes a command: the state is entered at once, and a change of direction leaves no programmed
speed to hold. -/
def takeCommand (c : SpindleContext) (state : SpindleState) : SpindleContext :=
  { c with
    state := { c.state with on := state.on, ccw := state.ccw }
    data :=
      { c.data with
        programmed := if c.state.ccw = state.ccw then c.data.programmed else noSpeed
        commanded := { c.data.commanded with on := state.on, ccw := state.ccw } }
    statusOp := .sending }

/-- Ends the sending of a speed, which is programmed whatever has become of it. -/
def endSpeed (c : SpindleContext) (rpm tolerance : Binary32) (progress : OperationState) :
    SpindleContext :=
  { c with data := c.data.program rpm tolerance, speedOp := progress }

/-- Whether the speed is to be read again: it never was, or the interval is over.  A clock that
has gone back counts as standing still. -/
def pollDue (c : SpindleContext) (now interval : UInt64) : Bool :=
  match c.lastPoll with
  | none => true
  | some last => decide (interval.toNat ≤ now.toNat - last.toNat)

end SpindleContext

namespace Spindle

def registers (s : Spindle) : RegisterMap := s.config.model.registers

/-- The attempts at a blocking exchange. -/
def retries (s : Spindle) : Nat := s.config.retries.toNat

/-- Takes in what a reply says, `rest` being the replies that wait after it. -/
def takeIn (s : Spindle) (reply : Reply) (rest : List Reply) (coldStart : Bool)
    (c : SpindleContext) : SpindleContext :=
  let (finding, data, exceptions) := s.reader.read reply coldStart c.data c.exceptions
  let maxSpeed :=
    match finding with
    | .maxSpeed rpm => some rpm
    | _ => c.maxSpeed
  { c with inbox := rest, data, exceptions, maxSpeed }

/-- A spindle with its first state: not selected, at the first address. -/
def make (id : SpindleId) (config : Config) : Except ConfigError (Spindle × SpindleContext) := do
  config.validate
  let scale ← config.speedScale
  let maxScale ← config.maxSpeedScale
  let context : SpindleContext :=
    { address := config.modbusAddress 0
      exceptions := .ofBound config.retries.toNat }
  return ({ id, config, reader := { scale, maxScale } }, context)

/-- A spindle that could be made has attempts to make, and begins with nothing under way. -/
theorem make_eq_ok {id : SpindleId} {config : Config} {s : Spindle} {c : SpindleContext}
    (h : make id config = .ok (s, c)) :
    s.config = config ∧ 0 < s.retries ∧
      c = { address := config.modbusAddress 0, exceptions := .ofBound config.retries.toNat } := by
  have hretries : config.validate = .ok () → 0 < config.retries.toNat := by
    refine fun hv => Nat.pos_of_ne_zero fun hzero => ?_
    have hnone : config.retries = 0 := UInt32.toNat_inj.1 hzero
    unfold Config.validate Config.fault? at hv
    split at hv
    · cases hv
    · rename_i hfault
      rw [if_pos hnone] at hfault
      split at hfault <;> cases hfault
  rw [make] at h
  cases hv : config.validate with
  | error e => simp [hv, bind, Except.bind] at h
  | ok =>
      cases hscale : config.speedScale with
      | error e => simp [hv, hscale, bind, Except.bind] at h
      | ok scale =>
          cases hmax : config.maxSpeedScale with
          | error e => simp [hv, hscale, hmax, bind, Except.bind] at h
          | ok maxScale =>
              simp only [hv, hscale, hmax, bind, Except.bind, pure, Except.pure, Except.ok.injEq,
                Prod.mk.injEq] at h
              obtain ⟨rfl, rfl⟩ := h
              exact ⟨rfl, hretries hv, rfl⟩

theorem make_id {id : SpindleId} {config : Config} {s : Spindle} {c : SpindleContext}
    (h : make id config = .ok (s, c)) : s.id = id := by
  simp only [make, bind, Except.bind, pure, Except.pure] at h
  grind

end Spindle

end SpindleDrive
