import SpindleDrive.Modbus.ProtocolError

/-!
# Replies about one register

Reading one register is answered by the address, the function, a byte count of two and the value;
writing one by the address, the function, the register and the value, an echo of the request.  For
each of the two there is a reader, which takes a frame apart, and a writer, which builds it.

* `exceptionCode?` — the reason in a refusal, if the frame is one.
* `ReadReply.ofFrame`, `ReadReply.toFrame` — the reply to a read.
* `WriteReply.ofFrame`, `WriteReply.toFrame` — the reply to a write, and the write itself.
* `exceptionFrame` — the refusal of a request.

Both readers look at a refusal first, then at the function byte, then at the length; bytes past the
last field are not looked at.
-/

namespace SpindleDrive

/-- The reason that a refusal gives; a refusal cut off before its reason gives `unknown`. -/
def exceptionCode? (f : Frame) : Option ExceptionCode :=
  if f.length < 2 ∨ isExceptionByte f.functionByte = false then none
  else some (if 3 ≤ f.length then ExceptionCode.ofByte f.buffer[2] else .unknown)

/-- Accepts a frame that carries the given function and no refusal. -/
def checkFunction (f : Frame) (expected : FunctionCode) : Except ProtocolError Unit :=
  match exceptionCode? f with
  | some code => .error (.exception code)
  | none =>
    if f.length < 2 then .error (.invalidLength 2 f.length.toNat)
    else if f.functionByte ≠ expected.toByte then
      .error (.unexpectedFunction expected.toByte f.functionByte)
    else .ok ()

/-- The value of a register, as read. -/
structure ReadReply where
  address : UInt8
  value : UInt16
  deriving DecidableEq, Repr

namespace ReadReply

def ofFrame (f : Frame) : Except ProtocolError ReadReply := do
  checkFunction f .readHoldingRegisters
  if f.length < 5 then throw (.invalidLength 5 f.length.toNat)
  if f.buffer[2] ≠ 2 then throw (.invalidValue .byteCount f.buffer[2].toUInt16)
  return { address := f.address, value := f.wordAt 3 }

def toFrame (r : ReadReply) : Frame :=
  let (high, low) := wordBytes r.value
  Frame.ofBytes [r.address, FunctionCode.readHoldingRegisters.toByte, 2, high, low]

end ReadReply

/-- A register with the value written to it. -/
structure WriteReply where
  address : UInt8
  register : UInt16
  value : UInt16
  deriving DecidableEq, Repr

namespace WriteReply

def ofFrame (f : Frame) : Except ProtocolError WriteReply := do
  checkFunction f .writeRegister
  if f.length < 6 then throw (.invalidLength 6 f.length.toNat)
  return { address := f.address, register := f.register, value := f.value }

def toFrame (r : WriteReply) : Frame :=
  let (registerHigh, registerLow) := wordBytes r.register
  let (valueHigh, valueLow) := wordBytes r.value
  Frame.ofBytes [r.address, FunctionCode.writeRegister.toByte,
    registerHigh, registerLow, valueHigh, valueLow]

end WriteReply

def exceptionFrame (address : UInt8) (function : FunctionCode) (code : ExceptionCode) : Frame :=
  Frame.ofBytes [address, function.exceptionByte, code.toByte]

end SpindleDrive
