import SpindleDrive.Drive.Request

/-!
# A simulated drive

A drive that answers register reads and writes as the real ones do: it follows the command
register, keeps the frequency register, gives that frequency as its output while it runs, and
refuses everything else.

* `SimulatedDrive` — its state.
* `SimulatedDrive.handle` — the answer to a frame, with the state after it; a frame for another
  address gets none.
-/

namespace SpindleDrive

structure SimulatedDrive where
  address : UInt8
  registers : RegisterMap
  running : Bool := false
  reverse : Bool := false
  frequency : UInt16 := 0
  maxFrequency : UInt16 := 40000
  faultResets : Nat := 0
  deriving DecidableEq, Repr

namespace SimulatedDrive

/-- A stopped drive of a model; its highest frequency is 400 hertz. -/
def ofModel (address : UInt8) (model : DriveModel) : SimulatedDrive :=
  { address, registers := model.registers }

/-- The output frequency: that of the frequency register while the drive runs, and zero else. -/
def output (d : SimulatedDrive) : UInt16 :=
  if d.running then d.frequency else 0

/-- Follows a command word, field by field. -/
def obey (d : SimulatedDrive) (word : CommandWord) : SimulatedDrive :=
  { d with
    running :=
      match word.runStop with
      | .start | .jog => true
      | .stop => false
      | .noFunction => d.running
    reverse :=
      match word.direction with
      | .forward => false
      | .reverse => true
      | .toggle => !d.reverse
      | .noFunction => d.reverse
    faultResets := if word.faultReset = .noFunction then d.faultResets else d.faultResets + 1 }

/-- Answers a write of `value` to `register`: an echo where the register can be written. -/
def write (d : SimulatedDrive) (request : Frame) (register value : UInt16) :
    Frame × SimulatedDrive :=
  if register = d.registers.command then (request, d.obey (.ofByte value.toUInt8))
  else if register = d.registers.frequency then (request, { d with frequency := value })
  else (exceptionFrame d.address .writeRegister .illegalDataAddress, d)

def read (d : SimulatedDrive) (register : UInt16) : Frame :=
  if register = d.registers.outputFrequency then
    ReadReply.toFrame { address := d.address, value := d.output }
  else if some register = d.registers.maxFrequency then
    ReadReply.toFrame { address := d.address, value := d.maxFrequency }
  else exceptionFrame d.address .readHoldingRegisters .illegalDataAddress

/-- Answers a frame.  One for another address is not answered; one too short for a register and a
value, or with another function, is refused. -/
def handle (d : SimulatedDrive) (request : Frame) : Option Frame × SimulatedDrive :=
  if request.address ≠ d.address then (none, d)
  else if request.length < 6 then
    (some (exceptionFrame d.address .writeRegister .illegalDataValue), d)
  else
    match FunctionCode.ofByte? request.functionByte with
    | some .writeRegister =>
      let (reply, d) := d.write request request.register request.value
      (some reply, d)
    | some .readHoldingRegisters => (some (d.read request.register), d)
    | none =>
      let refusal := Frame.ofBytes [d.address, request.functionByte ||| exceptionFlag,
        ExceptionCode.illegalFunction.toByte]
      (some refusal, d)

end SimulatedDrive

end SpindleDrive
